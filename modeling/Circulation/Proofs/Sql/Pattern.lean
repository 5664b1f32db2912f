/-
**What a fuzzy filter finds.**

A fuzzy filter puts its value between two percent signs and leaves it to the store to match texts
with this pattern.  A value of other characters than the marks of the pattern language is found
wherever it occurs.  The marks are not escaped: a percent sign in a value stands for any run of
characters, an underscore for any one character, and a backslash for the character behind it, which
may be the percent sign that the filter has put there.

Main definitions:

* `Wild`, `wilds?` — the places of a pattern, as the store reads them;
* `Wild.fits`, `like` — whether a text matches;
* `SpellsWilds` — texts and the places that they spell;
* `aroundChars` — a value between two percent signs;
* `Finds` — the texts that a value finds.

Main results:

* `like_around_iff_finds` — the pattern of a value matches the texts that the value finds;
* `like_around_iff_occurs` — **these are the texts in which the value occurs exactly when the value
  holds no mark**;
* `conditionsOf_fuzzy` — the same for the condition that a fuzzy filter makes.
-/

import Circulation.Proofs.Sql.Conditions

set_option relaxedAutoImplicit false
set_option autoImplicit false

namespace Circulation

/-! ### Patterns -/

/-- What one place of a pattern stands for. -/
inductive Wild where
  /-- Any run of characters, empty ones too. -/
  | run
  /-- Any one character. -/
  | one
  | exactly (c : Char)
deriving DecidableEq

/-- The places of a pattern.  A backslash takes the marks from the character behind it; there is no
pattern without such a character. -/
def wilds? : List Char → Option (List Wild)
  | [] => some []
  | ['\\'] => none
  | '\\' :: c :: cs => (wilds? cs).map (.exactly c :: ·)
  | '%' :: cs => (wilds? cs).map (.run :: ·)
  | '_' :: cs => (wilds? cs).map (.one :: ·)
  | c :: cs => (wilds? cs).map (.exactly c :: ·)

/-- Whether some end of a text has a property. -/
def anyEnd (q : List Char → Bool) : List Char → Bool
  | [] => q []
  | c :: s => q (c :: s) || anyEnd q s

/-- Whether a text matches the places of a pattern, from its beginning to its end. -/
def Wild.fits : List Wild → List Char → Bool
  | [], s => s.isEmpty
  | .run :: p, s => anyEnd (Wild.fits p) s
  | .one :: p, s =>
      match s with
      | [] => false
      | _ :: s => Wild.fits p s
  | .exactly c :: p, s =>
      match s with
      | [] => false
      | d :: s => d == c && Wild.fits p s

/-- Whether a text matches a pattern. -/
def like (pattern s : List Char) : Bool :=
  match wilds? pattern with
  | some p => Wild.fits p s
  | none => false

/-! ### Matching, place by place -/

theorem anyEnd_iff {q : List Char → Bool} {s : List Char} :
    anyEnd q s = true ↔ ∃ front back, s = front ++ back ∧ q back = true := by
  induction s with
  | nil =>
      constructor
      · exact fun h => ⟨[], [], rfl, h⟩
      · rintro ⟨front, back, heq, h⟩
        obtain ⟨-, rfl⟩ := List.append_eq_nil_iff.1 heq.symm
        exact h
  | cons c s ih =>
      rw [anyEnd, Bool.or_eq_true, ih]
      constructor
      · rintro (h | ⟨front, back, rfl, h⟩)
        · exact ⟨[], c :: s, rfl, h⟩
        · exact ⟨c :: front, back, rfl, h⟩
      · rintro ⟨front, back, heq, h⟩
        rcases List.cons_eq_append_iff.1 heq with ⟨-, rfl⟩ | ⟨front, -, rfl⟩
        · exact Or.inl h
        · exact Or.inr ⟨front, back, rfl, h⟩

namespace Wild

variable {p q : List Wild} {s : List Char} {c : Char}

theorem fits_nil_iff : fits [] s = true ↔ s = [] := List.isEmpty_iff

theorem fits_run_iff :
    fits (run :: p) s = true ↔ ∃ front back, s = front ++ back ∧ fits p back = true :=
  anyEnd_iff

theorem fits_one_iff :
    fits (one :: p) s = true ↔ ∃ d back, s = d :: back ∧ fits p back = true := by
  cases s with
  | nil => simp [fits]
  | cons d s => simp [fits]

theorem fits_exactly_iff :
    fits (exactly c :: p) s = true ↔ ∃ back, s = c :: back ∧ fits p back = true := by
  cases s with
  | nil => simp [fits]
  | cons d s => simp [fits]

/-- **A pattern in two parts matches what its parts match one behind the other.** -/
theorem fits_append_iff : fits (p ++ q) s = true ↔
    ∃ front back, s = front ++ back ∧ fits p front = true ∧ fits q back = true := by
  induction p generalizing s with
  | nil =>
      simp only [List.nil_append, fits_nil_iff]
      constructor
      · exact fun h => ⟨[], s, rfl, rfl, h⟩
      · rintro ⟨front, back, rfl, rfl, h⟩
        exact h
  | cons w p ih =>
      rw [List.cons_append]
      cases w with
      | run =>
          simp only [fits_run_iff, ih]
          constructor
          · rintro ⟨skipped, rest, rfl, front, back, rfl, hp, hq⟩
            exact ⟨skipped ++ front, back, by simp, ⟨skipped, front, rfl, hp⟩, hq⟩
          · rintro ⟨whole, back, rfl, ⟨skipped, front, rfl, hp⟩, hq⟩
            exact ⟨skipped, front ++ back, by simp, front, back, rfl, hp, hq⟩
      | one =>
          simp only [fits_one_iff, ih]
          constructor
          · rintro ⟨d, rest, rfl, front, back, rfl, hp, hq⟩
            exact ⟨d :: front, back, rfl, ⟨d, front, rfl, hp⟩, hq⟩
          · rintro ⟨whole, back, rfl, ⟨d, front, rfl, hp⟩, hq⟩
            exact ⟨d, front ++ back, rfl, front, back, rfl, hp, hq⟩
      | exactly c =>
          simp only [fits_exactly_iff, ih]
          constructor
          · rintro ⟨rest, rfl, front, back, rfl, hp, hq⟩
            exact ⟨c :: front, back, rfl, ⟨front, rfl, hp⟩, hq⟩
          · rintro ⟨whole, back, rfl, ⟨front, rfl, hp⟩, hq⟩
            exact ⟨front ++ back, rfl, front, back, rfl, hp, hq⟩

/-- One of the shortest texts that match. -/
def shortest (p : List Wild) : List Char :=
  p.flatMap fun
    | run => []
    | one => ['a']
    | exactly c => [c]

theorem fits_shortest (p : List Wild) : fits p (shortest p) = true := by
  induction p with
  | nil => rfl
  | cons w p ih =>
      cases w with
      | run => exact fits_run_iff.2 ⟨[], shortest p, rfl, ih⟩
      | one => exact fits_one_iff.2 ⟨'a', shortest p, rfl, ih⟩
      | exactly c => exact fits_exactly_iff.2 ⟨shortest p, rfl, ih⟩

end Wild

/-! ### The places of a value -/

/-- A character that stands for itself in a pattern. -/
def Unmarked (c : Char) : Prop := c ≠ '%' ∧ c ≠ '_' ∧ c ≠ '\\'

instance (c : Char) : Decidable (Unmarked c) :=
  inferInstanceAs (Decidable (c ≠ '%' ∧ c ≠ '_' ∧ c ≠ '\\'))

/-- A value without marks. -/
def Markless (v : List Char) : Prop := ∀ c ∈ v, Unmarked c

instance (v : List Char) : Decidable (Markless v) := List.decidableBAll _ v

/-- Texts and the places that they spell. -/
inductive SpellsWilds : List Char → List Wild → Prop
  | nil : SpellsWilds [] []
  | run {v : List Char} {p : List Wild} (h : SpellsWilds v p) : SpellsWilds ('%' :: v) (.run :: p)
  | one {v : List Char} {p : List Wild} (h : SpellsWilds v p) : SpellsWilds ('_' :: v) (.one :: p)
  | escaped {v : List Char} {p : List Wild} (c : Char) (h : SpellsWilds v p) :
      SpellsWilds ('\\' :: c :: v) (.exactly c :: p)
  | exactly {v : List Char} {p : List Wild} {c : Char} (hc : Unmarked c) (h : SpellsWilds v p) :
      SpellsWilds (c :: v) (.exactly c :: p)

theorem wilds?_of_unmarked {c : Char} (hc : Unmarked c) (v : List Char) :
    wilds? (c :: v) = (wilds? v).map (.exactly c :: ·) := by
  rw [wilds?]
  · exact fun h _ => hc.2.2 h
  · exact fun _ _ h _ => hc.2.2 h
  · exact hc.1
  · exact hc.2.1

/-- A pattern is read as what it spells. -/
theorem wilds?_eq_some_iff {v : List Char} {p : List Wild} :
    wilds? v = some p ↔ SpellsWilds v p := by
  constructor
  · intro h
    fun_induction wilds? v generalizing p with
    | case1 =>
        obtain rfl := Option.some.inj h
        exact .nil
    | case2 => cases h
    | case3 c v ih =>
        obtain ⟨q, hq, rfl⟩ := Option.map_eq_some_iff.1 h
        exact .escaped c (ih hq)
    | case4 v ih =>
        obtain ⟨q, hq, rfl⟩ := Option.map_eq_some_iff.1 h
        exact .run (ih hq)
    | case5 v ih =>
        obtain ⟨q, hq, rfl⟩ := Option.map_eq_some_iff.1 h
        exact .one (ih hq)
    | case6 c v hend hescape hrun hone ih =>
        obtain ⟨q, hq, rfl⟩ := Option.map_eq_some_iff.1 h
        refine .exactly ⟨hrun, hone, fun hc => ?_⟩ (ih hq)
        cases v with
        | nil => exact hend hc rfl
        | cons d v => exact hescape d v hc rfl
  · intro h
    induction h with
    | nil => rfl
    | run _ ih => rw [wilds?, ih, Option.map_some]
    | one _ ih => rw [wilds?, ih, Option.map_some]
    | escaped c _ ih => rw [wilds?, ih, Option.map_some]
    | exactly hc _ ih => rw [wilds?_of_unmarked hc, ih, Option.map_some]

/-- Only a backslash at the end keeps a text from being a pattern. -/
theorem exists_of_wilds?_eq_none {v : List Char} (h : wilds? v = none) :
    ∃ w p, v = w ++ ['\\'] ∧ SpellsWilds w p := by
  fun_induction wilds? v with
  | case1 => cases h
  | case2 => exact ⟨[], [], rfl, .nil⟩
  | case3 c v ih =>
      obtain ⟨w, p, rfl, hw⟩ := ih (Option.map_eq_none_iff.1 h)
      exact ⟨_, _, rfl, .escaped c hw⟩
  | case4 v ih =>
      obtain ⟨w, p, rfl, hw⟩ := ih (Option.map_eq_none_iff.1 h)
      exact ⟨_, _, rfl, .run hw⟩
  | case5 v ih =>
      obtain ⟨w, p, rfl, hw⟩ := ih (Option.map_eq_none_iff.1 h)
      exact ⟨_, _, rfl, .one hw⟩
  | case6 c v hend hescape hrun hone ih =>
      obtain ⟨w, p, rfl, hw⟩ := ih (Option.map_eq_none_iff.1 h)
      refine ⟨_, _, rfl, .exactly ⟨hrun, hone, fun hc => ?_⟩ hw⟩
      cases w with
      | nil => exact hescape _ _ hc rfl
      | cons d w => exact hescape _ _ hc rfl

namespace SpellsWilds

variable {v w : List Char} {p q : List Wild}

/-- Patterns one behind the other spell their places one behind the other. -/
theorem append (hv : SpellsWilds v p) (hw : SpellsWilds w q) : SpellsWilds (v ++ w) (p ++ q) := by
  induction hv with
  | nil => exact hw
  | run _ ih => exact .run ih
  | one _ ih => exact .one ih
  | escaped c _ ih => exact .escaped c ih
  | exactly hc _ ih => exact .exactly hc ih

/-- A text without marks spells its characters. -/
theorem ofMarkless (h : Markless v) : SpellsWilds v (v.map .exactly) := by
  induction v with
  | nil => exact .nil
  | cons c v ih =>
      have hv : Markless v := fun d hd => h d (List.mem_cons_of_mem c hd)
      exact .exactly (h c List.mem_cons_self) (ih hv)

/-- A pattern is at least as long as what it matches at the shortest. -/
theorem length_shortest_le (h : SpellsWilds v p) : (Wild.shortest p).length ≤ v.length := by
  induction h with
  | nil => exact Nat.le_refl 0
  | run _ ih => exact Nat.le_succ_of_le ih
  | one _ ih => exact Nat.succ_le_succ ih
  | escaped c _ ih => exact Nat.le_succ_of_le (Nat.succ_le_succ ih)
  | exactly hc _ ih => exact Nat.succ_le_succ ih

/-- **Only a pattern without marks is itself what it matches at the shortest.** -/
theorem markless_of_shortest_eq (h : SpellsWilds v p) (heq : Wild.shortest p = v) : Markless v := by
  induction h with
  | nil =>
      intro c hc
      cases hc
  | @run v p h _ =>
      -- the percent sign is left out of the shortest text
      have hle := h.length_shortest_le
      have hlength : (Wild.shortest p).length = v.length + 1 := congrArg List.length heq
      omega
  | one _ _ => exact absurd (List.cons.inj heq).1 (by decide)
  | @escaped v p c h _ =>
      -- and so is the backslash
      have hle := h.length_shortest_le
      have hlength : (Wild.shortest p).length + 1 = v.length + 1 + 1 := congrArg List.length heq
      omega
  | exactly hc _ ih => exact List.forall_mem_cons.2 ⟨hc, ih (List.cons.inj heq).2⟩

end SpellsWilds

/-! ### A value between two percent signs -/

/-- A value between two percent signs. -/
def aroundChars (v : List Char) : List Char := '%' :: (v ++ ['%'])

section Around

variable {v s : List Char} {p : List Wild}

theorem like_of_spells (h : SpellsWilds v p) : like v s = Wild.fits p s := by
  rw [like, wilds?_eq_some_iff.2 h]

/-- **The pattern of a value matches the texts of which some part matches the value.** -/
theorem like_around_iff (h : SpellsWilds v p) :
    like (aroundChars v) s = true ↔ ∃ part, part <:+: s ∧ Wild.fits p part = true := by
  have hspells : SpellsWilds (aroundChars v) (.run :: (p ++ [.run])) := .run (h.append (.run .nil))
  rw [like_of_spells hspells]
  simp only [Wild.fits_run_iff, Wild.fits_append_iff, Wild.fits_nil_iff]
  constructor
  · rintro ⟨front, rest, rfl, part, back, rfl, hpart, -⟩
    exact ⟨part, ⟨front, back, by simp⟩, hpart⟩
  · rintro ⟨part, ⟨front, back, rfl⟩, hpart⟩
    exact ⟨front, part ++ back, by simp, part, back, rfl, hpart, back, [], by simp, rfl⟩

/-- **A backslash at the end of a value takes the mark from the percent sign behind it**: the
pattern matches the texts that end with this sign and with what matches the rest in front of it. -/
theorem like_around_open_iff (h : SpellsWilds v p) :
    like (aroundChars (v ++ ['\\'])) s = true ↔
      ∃ front part, s = front ++ part ++ ['%'] ∧ Wild.fits p part = true := by
  have hspells : SpellsWilds (aroundChars (v ++ ['\\'])) (.run :: (p ++ [.exactly '%'])) := by
    have hopen := SpellsWilds.run (h.append (.escaped '%' .nil))
    rw [aroundChars, List.append_assoc]
    exact hopen
  rw [like_of_spells hspells]
  simp only [Wild.fits_run_iff, Wild.fits_append_iff, Wild.fits_exactly_iff, Wild.fits_nil_iff]
  constructor
  · rintro ⟨front, rest, rfl, part, back, rfl, hpart, end', rfl, rfl⟩
    exact ⟨front, part, by simp, hpart⟩
  · rintro ⟨front, part, rfl, hpart⟩
    exact ⟨front, part ++ ['%'], by simp, part, ['%'], rfl, hpart, [], rfl, rfl⟩

/-- The texts that a value finds: if it is a pattern by itself, those of which some part matches it;
if a backslash is left open at its end, those that end with a percent sign and with a match of the
rest in front of it. -/
inductive Finds (v : List Char) : List Char → Prop
  | part {p : List Wild} {part : List Char} (h : SpellsWilds v p)
      (hpart : Wild.fits p part = true) (front back : List Char) : Finds v (front ++ part ++ back)
  | atEnd {w part : List Char} {p : List Wild} (hv : v = w ++ ['\\']) (h : SpellsWilds w p)
      (hpart : Wild.fits p part = true) (front : List Char) : Finds v (front ++ part ++ ['%'])

/-- **The pattern of a value matches the texts that the value finds.** -/
theorem like_around_iff_finds : like (aroundChars v) s = true ↔ Finds v s := by
  constructor
  · intro h
    cases hv : wilds? v with
    | some p =>
        have hspells := wilds?_eq_some_iff.1 hv
        obtain ⟨part, ⟨front, back, rfl⟩, hpart⟩ := (like_around_iff hspells).1 h
        exact .part hspells hpart front back
    | none =>
        obtain ⟨w, p, rfl, hspells⟩ := exists_of_wilds?_eq_none hv
        obtain ⟨front, part, rfl, hpart⟩ := (like_around_open_iff hspells).1 h
        exact .atEnd rfl hspells hpart front
  · rintro (⟨hspells, hpart, front, back⟩ | ⟨rfl, hspells, hpart, front⟩)
    · exact (like_around_iff hspells).2 ⟨_, ⟨front, back, rfl⟩, hpart⟩
    · exact (like_around_open_iff hspells).2 ⟨front, _, rfl, hpart⟩

theorem fits_map_exactly_iff {w : List Char} :
    Wild.fits (w.map .exactly) s = true ↔ s = w := by
  induction w generalizing s with
  | nil => exact Wild.fits_nil_iff
  | cons c w ih =>
      rw [List.map_cons, Wild.fits_exactly_iff]
      simp only [ih]
      constructor
      · rintro ⟨back, rfl, rfl⟩
        rfl
      · rintro rfl
        exact ⟨w, rfl, rfl⟩

/-- **The pattern of a value matches the texts in which the value occurs exactly when the value
holds no mark.** -/
theorem like_around_iff_occurs :
    (∀ s, like (aroundChars v) s = true ↔ v <:+: s) ↔ Markless v := by
  constructor
  · intro h
    -- the value would have to occur in the shortest text that it finds
    cases hv : wilds? v with
    | some p =>
        have hspells := wilds?_eq_some_iff.1 hv
        have hoccurs := (h (Wild.shortest p)).1
          ((like_around_iff hspells).2 ⟨_, List.infix_rfl, Wild.fits_shortest p⟩)
        exact hspells.markless_of_shortest_eq
          (hoccurs.eq_of_length_le hspells.length_shortest_le).symm
    | none =>
        obtain ⟨w, p, rfl, hspells⟩ := exists_of_wilds?_eq_none hv
        have hoccurs := (h (Wild.shortest p ++ ['%'])).1
          ((like_around_open_iff hspells).2 ⟨[], _, rfl, Wild.fits_shortest p⟩)
        have hle := hspells.length_shortest_le
        have heq := hoccurs.eq_of_length_le (by simpa using hle)
        obtain ⟨-, hlast⟩ := List.append_inj' heq rfl
        exact absurd hlast (by decide)
  · intro h s
    rw [like_around_iff (.ofMarkless h)]
    simp only [fits_map_exactly_iff, exists_eq_right]

end Around

/-! ### Fuzzy filters -/

/-- **A fuzzy filter compares its column with its value between two percent signs.**  The store
matches the texts that the value finds; these are the texts in which the value occurs exactly when
the value holds no mark. -/
theorem conditionsOf_fuzzy {filters : Dict Filter.Descriptor} {conds : List Condition}
    (h : conditionsOf filters = .ok conds) {name token value : String}
    (htoken : token = "fuzzy" ∨ token = "like")
    (hfilter : filters.get? name = some (.ofToken (some token) value)) :
    ∃ cond ∈ conds, cond.column = toStorageCasing name ∧ cond.comparison = .builtin .like ∧
      cond.value = "%" ++ value ++ "%" ∧
      (∀ s, like cond.value.toList s = true ↔ Finds value.toList s) ∧
      ((∀ s, like cond.value.toList s = true ↔ value.toList <:+: s) ↔ Markless value.toList) := by
  obtain ⟨cond, hzip, hmakes⟩ :=
    exists_mem_zip (conditionsOf_eq_ok_iff_makes.1 h) (Dict.mem_toList_iff.2 hfilter)
  have hop : (Filter.Descriptor.ofToken (some token) value).op = .builtin .like := by
    rcases htoken with rfl | rfl
    · rfl
    · rfl
  have hvalue : cond.value = "%" ++ value ++ "%" := by
    rw [hmakes.value, if_pos hop]
    rfl
  have hchars : cond.value.toList = aroundChars value.toList := by
    rw [hvalue, String.toList_append, String.toList_append]
    rfl
  have hcomparison := hmakes.comparison.eq_like_iff.2 hop
  refine ⟨cond, (List.of_mem_zip hzip).2, hmakes.column, hcomparison, hvalue, ?_⟩
  rw [hchars]
  exact ⟨fun s => like_around_iff_finds, like_around_iff_occurs⟩

/-- A value without marks finds the texts in which it occurs. -/
theorem conditionsOf_fuzzy_dune :
    let filters := (Query.ofPairs [("filter[title][fuzzy]", "dune"), ("page[size]", "5")]).filters
    let conds : List Condition := [⟨"title", .builtin .like, "%dune%"⟩]
    (conditionsOf filters = .ok conds ∧
      filters.get? "title" = some (.ofToken (some "fuzzy") "dune")) ∧
      Markless "dune".toList ∧
      ∀ s, like "%dune%".toList s = true ↔ "dune".toList <:+: s := by
  intro filters conds
  have hconds : conditionsOf filters = .ok conds := eq_ok_of_toOption (by decide +kernel)
  have hfilter : filters.get? "title" = some (.ofToken (some "fuzzy") "dune") := by
    decide +kernel
  have hmarkless : Markless "dune".toList := by decide
  obtain ⟨cond, hcond, -, -, hvalue, -, hiff⟩ := conditionsOf_fuzzy hconds (Or.inl rfl) hfilter
  have hpattern : cond.value = "%dune%" := hvalue.trans (by decide +kernel)
  rw [hpattern] at hiff
  exact ⟨⟨hconds, hfilter⟩, hmarkless, hiff.2 hmarkless⟩

/-- An underscore finds any character in its place, and a backslash keeps a value from being found
where it occurs. -/
theorem conditionsOf_fuzzy_marks :
    let underscore := (Query.ofPairs [("filter[title][fuzzy]", "a_c")]).filters
    let backslash := (Query.ofPairs [("filter[title][like]", "a\\")]).filters
    (conditionsOf underscore = .ok [⟨"title", .builtin .like, "%a_c%"⟩] ∧
      like "%a_c%".toList "abc".toList = true ∧ ¬"a_c".toList <:+: "abc".toList) ∧
    conditionsOf backslash = .ok [⟨"title", .builtin .like, "%a\\%"⟩] ∧
      like "%a\\%".toList "a\\b".toList = false ∧ "a\\".toList <:+: "a\\b".toList := by
  intro underscore backslash
  refine ⟨⟨eq_ok_of_toOption (by decide +kernel), by decide, by decide⟩,
    eq_ok_of_toOption (by decide +kernel), by decide, by decide⟩

end Circulation
