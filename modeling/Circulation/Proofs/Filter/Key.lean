/-
**The grammar of filter keys.**

A filter key is `filter[...]` around something without a line break.  What stands inside may be a
name and a token with `][` between them, and often in several ways, since names and tokens may hold
brackets of their own.  The shortest name counts, and the token is all that is left.

Main definitions:

* `Filter.IsInside` — what may stand inside the brackets of a key;
* `Filter.Parts` — a name and a token that make up the inside of a key;
* `Query.Takes` — what a key does to a query.

Main results:

* `Filter.insideBrackets?_eq_some_iff` — which keys are filter keys;
* `Filter.splitToken_cases` — **the shortest name counts**;
* `Filter.length_le_of_parts` — a name in which `][` does not occur is the shortest;
* `Query.filterKeys_taken` — **what every key does to a query**.
-/

import Circulation.Filter.Query
import Circulation.Proofs.Text.Cut

set_option relaxedAutoImplicit false
set_option autoImplicit false

namespace Circulation

namespace Filter

open Text

/-! ### Brackets -/

/-- What may stand inside the brackets of a key: something, and no line break. -/
def IsInside (s : String) : Prop := s ≠ "" ∧ '\n' ∉ s.toList

/-- **A filter key has its brackets around something without a line break.** -/
theorem insideBrackets?_eq_some_iff {key inside : List Char} :
    insideBrackets? key = some inside ↔
      key = keyOpening ++ (inside ++ [']']) ∧ inside ≠ [] ∧ '\n' ∉ inside := by
  unfold insideBrackets?
  constructor
  · intro h
    split at h
    · cases h
    · next rest hrest =>
        split at h
        · next hlast =>
            obtain ⟨inside', rfl⟩ := List.getLast?_eq_some_iff.1 hlast
            simp only [List.dropLast_concat] at h
            split at h
            · cases h
            · next hinside =>
                obtain rfl := Option.some.inj h
                simp only [Bool.or_eq_true, List.isEmpty_iff, List.contains_iff_mem, not_or]
                  at hinside
                exact ⟨(append_of_isPrefixOf?_eq_some hrest).symm, hinside⟩
        · cases h
  · rintro ⟨rfl, hne, hbreak⟩
    rw [isPrefixOf?_append]
    simp [hne, hbreak]

/-! ### Names and tokens -/

/-- A name and a token, neither of them empty, that make up the inside of a key. -/
structure Parts (inside name token : String) : Prop where
  eq : inside = name ++ "][" ++ token
  name_ne : name ≠ ""
  token_ne : token ≠ ""

/-- Parts of a key, character by character. -/
theorem parts_iff {inside name token : List Char} :
    Parts (String.ofList inside) (String.ofList name) (String.ofList token) ↔
      inside = name ++ between ++ token ∧ name ≠ [] ∧ token ≠ [] := by
  have hempty : ∀ cs : List Char, String.ofList cs ≠ "" ↔ cs ≠ [] := by
    intro cs
    rw [← String.ofList_nil, ne_eq, String.ofList_inj]
  have hwhole : String.ofList name ++ "][" ++ String.ofList token =
      String.ofList (name ++ between ++ token) := by
    rw [String.ofList_append, String.ofList_append]
    rfl
  constructor
  · rintro ⟨heq, hname, htoken⟩
    rw [hwhole, String.ofList_inj] at heq
    exact ⟨heq, (hempty name).1 hname, (hempty token).1 htoken⟩
  · rintro ⟨rfl, hname, htoken⟩
    exact ⟨hwhole.symm, (hempty name).2 hname, (hempty token).2 htoken⟩

/-- **The shortest name that leaves a token counts**; without one the whole inside is a name. -/
theorem splitToken_cases {inside : List Char} (hne : inside ≠ []) :
    (∃ name token, splitToken inside = (name, some token) ∧
      (inside = name ++ between ++ token ∧ name ≠ [] ∧ token ≠ []) ∧
      ∀ name' token', inside = name' ++ between ++ token' → name' ≠ [] →
        name.length ≤ name'.length) ∨
    splitToken inside = (inside, none) ∧
      ∀ name token, inside = name ++ between ++ token → name ≠ [] → token = [] := by
  rcases inside with _ | ⟨c, cs⟩
  · exact absurd rfl hne
  · rw [splitToken]
    -- a name has a first character, so only what stands behind it is cut
    have htail : ∀ {name token}, c :: cs = name ++ between ++ token → name ≠ [] →
        ∃ name', name = c :: name' ∧ cs = name' ++ between ++ token := by
      intro name token heq hname
      rcases name with _ | ⟨d, name'⟩
      · exact absurd rfl hname
      · obtain ⟨rfl, hcs⟩ := List.cons.inj heq
        exact ⟨name', rfl, hcs⟩
    cases hcut : cutFirst between cs with
    | none =>
        refine Or.inr ⟨rfl, fun name token heq hname => ?_⟩
        obtain ⟨name', -, hcs⟩ := htail heq hname
        exact absurd ⟨name', token, hcs.symm⟩ (not_infix_of_cutFirst (by decide) hcut)
    | some p =>
        obtain ⟨front, back⟩ := p
        have hcs := cutFirst_eq_some hcut
        have hshortest : ∀ name token, c :: cs = name ++ between ++ token → name ≠ [] →
            (c :: front).length ≤ name.length := by
          intro name token heq hname
          obtain ⟨name', rfl, hcs'⟩ := htail heq hname
          exact Nat.succ_le_succ (length_le_of_cutFirst hcut hcs')
        cases back with
        | nil =>
            -- nothing stands behind the first mark, so nothing stands behind any
            refine Or.inr ⟨rfl, fun name token heq hname => ?_⟩
            have hle := hshortest name token heq hname
            have hlength := congrArg List.length heq
            rw [hcs] at hlength
            simp only [List.length_cons, List.length_append, List.length_nil] at hle hlength
            exact List.length_eq_zero_iff.1 (by omega)
        | cons t token =>
            exact Or.inl ⟨c :: front, t :: token, rfl,
              ⟨by rw [hcs]; rfl, List.cons_ne_nil _ _, List.cons_ne_nil _ _⟩, hshortest⟩

/-- **A name in which the mark does not occur behind the first character is the shortest.** -/
theorem length_le_of_parts {name token name' token' : List Char} (h : ¬between <:+: name.tail)
    (hname : name' ≠ []) (heq : name ++ between ++ token = name' ++ between ++ token') :
    name.length ≤ name'.length := by
  rw [List.append_assoc, List.append_assoc, List.append_eq_append_iff] at heq
  rcases heq with ⟨rest, rfl, -⟩ | ⟨rest, rfl, hrest⟩
  · rw [List.length_append]
    exact Nat.le_add_right _ _
  · -- a longer name would hold the mark, or end in its first half
    rcases rest with _ | ⟨c, _ | ⟨d, rest⟩⟩
    · exact Nat.le_of_eq (congrArg List.length (List.append_nil name'))
    · cases (List.cons.inj (List.cons.inj hrest).2).1
    · simp only [between, List.cons_append, List.cons.injEq] at hrest
      obtain ⟨rfl, rfl, -⟩ := hrest
      rcases name' with _ | ⟨e, name'⟩
      · exact absurd rfl hname
      · exact absurd ⟨name', rest, by simp [between]⟩ h

/-! ### Keys -/

/-- The characters of a filter key. -/
theorem toList_filterKey (s : String) :
    ("filter[" ++ s ++ "]").toList = keyOpening ++ (s.toList ++ [']']) := by
  rw [String.toList_append, String.toList_append, List.append_assoc]
  rfl

/-- **What a filter key stands for.** -/
theorem ofKey_inside {s : String} (hs : IsInside s) :
    (∃ name token, Target.ofKey ("filter[" ++ s ++ "]") = .filter name (some token) ∧
      Parts s name token ∧ ∀ name' token', Parts s name' token' → name.length ≤ name'.length) ∨
    Target.ofKey ("filter[" ++ s ++ "]") = .filter s none ∧
      ∀ name token, ¬Parts s name token := by
  have hne : s.toList ≠ [] := fun hnil => hs.1 (String.toList_eq_nil_iff.1 hnil)
  have hinside : insideBrackets? ("filter[" ++ s ++ "]").toList = some s.toList :=
    insideBrackets?_eq_some_iff.2 ⟨toList_filterKey s, hne, hs.2⟩
  have hparts : ∀ {name token}, Parts s name token →
      s.toList = name.toList ++ between ++ token.toList ∧ name.toList ≠ [] ∧ token.toList ≠ [] := by
    intro name token h
    rw [← parts_iff, String.ofList_toList, String.ofList_toList, String.ofList_toList]
    exact h
  unfold Target.ofKey
  rw [hinside]
  simp only
  rcases splitToken_cases hne with ⟨name, token, hsplit, heq, hshortest⟩ | ⟨hsplit, hwhole⟩
  · refine Or.inl ⟨String.ofList name, String.ofList token, ?_, ?_, ?_⟩
    · rw [hsplit]
      rfl
    · rw [← String.ofList_toList (s := s)]
      exact parts_iff.2 heq
    · intro name' token' h
      obtain ⟨heq', hname', -⟩ := hparts h
      rw [← String.length_toList, ← String.length_toList, String.toList_ofList]
      exact hshortest _ _ heq' hname'
  · refine Or.inr ⟨?_, ?_⟩
    · rw [hsplit, Option.map_none, String.ofList_toList]
    · intro name token h
      obtain ⟨heq, hname, htoken⟩ := hparts h
      exact htoken (hwhole _ _ heq hname)

/-- A key that is no filter key is a parameter of its own name. -/
theorem ofKey_param {key : String} (h : ∀ s, IsInside s → key ≠ "filter[" ++ s ++ "]") :
    Target.ofKey key = .param key := by
  have hnone : insideBrackets? key.toList = none := by
    refine Option.eq_none_iff_forall_ne_some.2 fun inside hinside => ?_
    obtain ⟨hkey, hne, hbreak⟩ := insideBrackets?_eq_some_iff.1 hinside
    refine h (String.ofList inside) ⟨?_, by rwa [String.toList_ofList]⟩ ?_
    · intro heq
      rw [← String.ofList_nil, String.ofList_inj] at heq
      exact hne heq
    · rw [← String.toList_inj, toList_filterKey, String.toList_ofList, hkey]
  unfold Target.ofKey
  rw [hnone]

/-- **A name in which `][` does not occur behind the first character is read back**, whatever its
token is. -/
theorem ofKey_parts {name token : String} (hname : IsInside name) (htoken : IsInside token)
    (h : ¬between <:+: name.toList.tail) :
    Target.ofKey ("filter[" ++ name ++ "][" ++ token ++ "]") = .filter name (some token) := by
  have hkey : "filter[" ++ name ++ "][" ++ token ++ "]" =
      "filter[" ++ (name ++ "][" ++ token) ++ "]" := by
    simp only [String.append_assoc]
  have hparts : Parts (name ++ "][" ++ token) name token := ⟨rfl, hname.1, htoken.1⟩
  have hs : IsInside (name ++ "][" ++ token) := by
    refine ⟨fun hempty => ?_, ?_⟩
    · exact hname.1 (String.append_eq_empty_iff.1 (String.append_eq_empty_iff.1 hempty).1).1
    · simp only [String.toList_append, List.mem_append, not_or]
      exact ⟨⟨hname.2, by decide⟩, htoken.2⟩
  rw [hkey]
  rcases ofKey_inside hs with ⟨name', token', hread, hparts', hshortest⟩ | ⟨-, hwhole⟩
  · -- two shortest names have one length, so they are one
    have heq := congrArg String.toList hparts'.eq
    simp only [String.toList_append] at heq
    have hle := length_le_of_parts h (fun hnil => hparts'.name_ne (String.toList_eq_nil_iff.1 hnil))
      heq
    have hge := hshortest name token hparts
    rw [← String.length_toList, ← String.length_toList] at hge
    rw [List.append_assoc, List.append_assoc] at heq
    obtain ⟨hnames, hrest⟩ := List.append_inj heq (Nat.le_antisymm hle hge)
    rw [hread, String.toList_inj.1 hnames, String.toList_inj.1 (List.append_cancel_left hrest)]
  · exact absurd hparts (hwhole name token)

end Filter

/-! ### Queries -/

namespace Query

open Circulation.Filter

/-- A query with a value put where a target says. -/
def put (q : Query) (value : String) : Target → Query
  | .filter name none => { q with filters := q.filters.insert name (.equality value) }
  | .filter name (some token) =>
      { q with filters := q.filters.insert name (.operator (.ofToken token) value) }
  | .param key => { q with params := q.params.insert key value }

/-- A key is taken for a target: wherever it stands in a query, its value is put there. -/
def Takes (key : String) (target : Target) : Prop :=
  Target.ofKey key = target ∧ ∀ pairs value,
    ofPairs (pairs ++ [(key, value)]) = (ofPairs pairs).put value target

/-- Every key is taken for what it stands for. -/
theorem takes_ofKey (key : String) : Takes key (Target.ofKey key) := by
  refine ⟨rfl, fun pairs value => ?_⟩
  rw [ofPairs, List.foldl_append]
  change (ofPairs pairs).insert key value = _
  rw [insert]
  cases Target.ofKey key with
  | filter name token => cases token <;> rfl
  | param key => rfl

/-- **What every key does to a query.**  It is a filter key just if it is `filter[...]` around
something without a line break.  If this can be split into a name and a token with `][` between
them, it stands for a filter on the shortest such name with all that is left for its token, and
otherwise for equality.  Every other key is a parameter. -/
theorem filterKeys_taken (key : String) :
    ((∃ name token, Target.ofKey key = .filter name token) ↔
      ∃ s, IsInside s ∧ key = "filter[" ++ s ++ "]") ∧
    (∀ s, IsInside s → key = "filter[" ++ s ++ "]" →
      ((∃ name token, Parts s name token) → ∃ name token, Parts s name token ∧
        (∀ name' token', Parts s name' token' → name.length ≤ name'.length) ∧
          Takes key (.filter name (some token))) ∧
      ((¬∃ name token, Parts s name token) → Takes key (.filter s none))) ∧
    ((¬∃ s, IsInside s ∧ key = "filter[" ++ s ++ "]") → Takes key (.param key)) ∧
    ∀ name token, IsInside name → IsInside token → ¬between <:+: name.toList.tail →
      key = "filter[" ++ name ++ "][" ++ token ++ "]" → Takes key (.filter name (some token)) := by
  have htakes := takes_ofKey key
  have hparam : (¬∃ s, IsInside s ∧ key = "filter[" ++ s ++ "]") →
      Target.ofKey key = .param key := fun h => ofKey_param fun s hs heq => h ⟨s, hs, heq⟩
  refine ⟨⟨?_, ?_⟩, ?_, ?_, ?_⟩
  · rintro ⟨name, token, hkey⟩
    refine Classical.byContradiction fun h => ?_
    rw [hparam h] at hkey
    cases hkey
  · rintro ⟨s, hs, rfl⟩
    rcases ofKey_inside hs with ⟨name, token, hkey, -⟩ | ⟨hkey, -⟩
    · exact ⟨name, some token, hkey⟩
    · exact ⟨s, none, hkey⟩
  · rintro s hs rfl
    rcases ofKey_inside hs with ⟨name, token, hkey, hparts, hshortest⟩ | ⟨hkey, hwhole⟩
    · refine ⟨fun _ => ⟨name, token, hparts, hshortest, hkey ▸ htakes⟩, fun hnone => ?_⟩
      exact absurd ⟨name, token, hparts⟩ hnone
    · refine ⟨?_, fun _ => hkey ▸ htakes⟩
      rintro ⟨name, token, hparts⟩
      exact absurd hparts (hwhole name token)
  · intro h
    rwa [hparam h] at htakes
  · rintro name token hname htoken h rfl
    rwa [ofKey_parts hname htoken h] at htakes

/-- Brackets in a name and in a token are kept apart by the first `][`; without a token there is
equality, and empty brackets ask for no filter. -/
theorem filterKeys_taken_brackets :
    (IsInside "a[b]" ∧ IsInside "gt][lt]" ∧ ¬between <:+: "a[b]".toList.tail ∧
      Takes "filter[a[b]][gt][lt]]" (.filter "a[b]" (some "gt][lt]"))) ∧
    (IsInside "][" ∧ (¬∃ name token, Parts "][" name token) ∧
      Takes "filter[][]" (.filter "][" none)) ∧
    ((¬∃ s, IsInside s ∧ "filter[]" = "filter[" ++ s ++ "]") ∧
      Takes "filter[]" (.param "filter[]")) := by
  have hname : IsInside "a[b]" := ⟨by decide, by decide⟩
  have htoken : IsInside "gt][lt]" := ⟨by decide, by decide⟩
  have hmark : ¬between <:+: "a[b]".toList.tail := by decide +kernel
  have hwhole : IsInside "][" := ⟨by decide, by decide⟩
  have hparts : ¬∃ name token, Parts "][" name token := by
    intro h
    obtain ⟨name, token, -, -, hkey, -⟩ :=
      ((filterKeys_taken "filter[][]").2.1 "][" hwhole rfl).1 h
    rw [show Target.ofKey "filter[][]" = .filter "][" none by decide +kernel] at hkey
    cases hkey
  have hempty : ¬∃ s, IsInside s ∧ "filter[]" = "filter[" ++ s ++ "]" := by
    intro h
    obtain ⟨name, token, hkey⟩ := (filterKeys_taken "filter[]").1.2 h
    rw [show Target.ofKey "filter[]" = .param "filter[]" by decide +kernel] at hkey
    cases hkey
  exact ⟨⟨hname, htoken, hmark, (filterKeys_taken _).2.2.2 _ _ hname htoken hmark rfl⟩,
    ⟨hwhole, hparts, ((filterKeys_taken _).2.1 _ hwhole rfl).2 hparts⟩,
    hempty, (filterKeys_taken _).2.2.1 hempty⟩

end Query

end Circulation
