/-
**Dictionaries as a whole: what look-ups find, and what does not depend on the values.**

Main definitions:

* `Dict.image` — the entries of a dictionary with a function of their values;
* `Dict.aim?`, `Dict.LastIsGreatest` — entries whose keys stand for names.

Main results:

* `get?_filter`, `get?_union` — what a look-up finds after a change of the whole dictionary;
* `contains_ofList`, `contains_mapKeys` — which names a dictionary has;
* `image_insert` — an image after an insertion depends on the image alone;
* `get?_ofList` — of several entries with one name the last wins;
* `get?_mapKeys_iff`, `get?_mapKeys_eq_some_iff` — of several names that become one the entry of the
  greatest stays, and where no two become one all of them;
* `ofList_toList` — a dictionary is made up of its own entries;
* `ofList_filterMap_aim?` — where entries may be taken in the order of their keys.
-/

import Circulation.Dict

set_option relaxedAutoImplicit false
set_option autoImplicit false

namespace Circulation.Dict

variable {α β : Type}

/-! ### Names -/

theorem find?_isSome_iff {key : String} {es : List (String × α)} :
    (find? key es).isSome = true ↔ key ∈ es.map Prod.fst := by
  induction es with
  | nil => simp
  | cons e es ih =>
      by_cases h : e.1 = key
      · simp [find?, h]
      · have hne : ¬key = e.1 := fun hk => h hk.symm
        simp only [find?, if_neg h, ih, List.map_cons, List.mem_cons, hne, false_or]

/-- A dictionary has the names that it lists. -/
theorem contains_iff_mem_keys {d : Dict α} {key : String} :
    d.contains key = true ↔ key ∈ d.keys := find?_isSome_iff

theorem contains_eq_isSome (d : Dict α) (key : String) : d.contains key = (d.get? key).isSome := rfl

theorem contains_of_get?_eq_some {d : Dict α} {key : String} {value : α}
    (h : d.get? key = some value) : d.contains key = true := by
  rw [contains_eq_isSome, h]
  rfl

theorem contains_insert (d : Dict α) (key key' : String) (value : α) :
    (d.insert key value).contains key' = (decide (key = key') || d.contains key') := by
  rw [contains_eq_isSome, get?_insert]
  by_cases h : key = key' <;> simp [h, contains_eq_isSome]

theorem contains_erase (d : Dict α) (key key' : String) :
    (d.erase key).contains key' = (!decide (key = key') && d.contains key') := by
  rw [contains_eq_isSome, get?_erase]
  by_cases h : key = key' <;> simp [h, contains_eq_isSome]

theorem contains_insertAll (d : Dict α) (es : List (String × α)) (key : String) :
    (d.insertAll es).contains key = (d.contains key || decide (key ∈ es.map Prod.fst)) := by
  -- a later entry may take the value of a name, never the name itself
  induction es generalizing d with
  | nil => simp
  | cons e es ih =>
      rw [insertAll_cons, ih, contains_insert, List.map_cons]
      by_cases h : e.1 = key
      · simp [h]
      · have hne : ¬key = e.1 := fun hk => h hk.symm
        simp only [h, decide_false, Bool.false_or, List.mem_cons, hne, false_or]

/-- A dictionary of a list has the names of the list. -/
theorem contains_ofList (es : List (String × α)) (key : String) :
    (ofList es).contains key = decide (key ∈ es.map Prod.fst) := by
  rw [ofList, contains_insertAll]
  simp [contains_eq_isSome]

/-- Respelled names are the spellings of the names. -/
theorem contains_mapKeys (f : String → String) (d : Dict α) (key : String) :
    (d.mapKeys f).contains key = decide (key ∈ d.keys.map f) := by
  rw [mapKeys, contains_ofList, keys, List.map_map, List.map_map]
  rfl

/-! ### Look-ups -/

theorem find?_filter (p : String → Bool) (key : String) (es : List (String × α)) :
    find? key (es.filter fun e => p e.1) = if p key = true then find? key es else none := by
  induction es with
  | nil => simp
  | cons e es ih =>
      by_cases h : e.1 = key
      · by_cases hp : p key = true
        · simp [find?, h, hp]
        · simp [h, hp, ih]
      · by_cases hp : p e.1 = true
        · simp [find?, h, hp, ih]
        · simp [find?, h, hp, ih]

/-- A look-up among the entries whose names satisfy a condition. -/
theorem get?_filter (d : Dict α) (p : String → Bool) (key : String) :
    (d.filter fun k _ => p k).get? key = if p key = true then d.get? key else none :=
  find?_filter p key d.toList

theorem get?_insertAll (d : Dict α) {es : List (String × α)} (h : Ordered es) (key : String) :
    (d.insertAll es).get? key = (find? key es).or (d.get? key) := by
  induction es generalizing d with
  | nil => simp
  | cons e es ih =>
      rw [Ordered, List.pairwise_cons] at h
      rw [insertAll_cons, ih (d.insert e.1 e.2) h.2, get?_insert]
      by_cases hkey : e.1 = key
      · -- names increase, so the rest does not have the name of the first entry
        have hnone : find? key es = none := find?_eq_none_of_lt fun e' he' => hkey ▸ h.1 e' he'
        simp [find?, hkey, hnone]
      · simp [find?, hkey]

/-- In a union the second dictionary goes first. -/
theorem get?_union (d e : Dict α) (key : String) :
    (d.union e).get? key = (e.get? key).or (d.get? key) :=
  get?_insertAll d e.ordered key

theorem contains_union (d e : Dict α) (key : String) :
    (d.union e).contains key = (e.contains key || d.contains key) := by
  rw [contains_eq_isSome, get?_union, Option.isSome_or]
  rfl

/-! ### Images -/

/-- The entries with a function of their values. -/
def image (f : α → β) (d : Dict α) : List (String × β) := d.toList.map fun e => (e.1, f e.2)

theorem map_put (f : α → β) (key : String) (value : α) (es : List (String × α)) :
    (put key value es).map (fun e => (e.1, f e.2)) =
      put key (f value) (es.map fun e => (e.1, f e.2)) := by
  induction es with
  | nil => rfl
  | cons e es ih =>
      simp only [put, List.map_cons]
      split
      · rfl
      · split
        · rfl
        · rw [List.map_cons, ih]

/-- **An image after an insertion depends on the image alone.** -/
theorem image_insert (f : α → β) (d : Dict α) (key : String) (value : α) :
    (d.insert key value).image f = put key (f value) (d.image f) :=
  map_put f key value d.toList

/-! ### Of one name the last entry wins -/

theorem find?_append (key : String) (es fs : List (String × α)) :
    find? key (es ++ fs) = (find? key es).or (find? key fs) := by
  induction es with
  | nil => simp
  | cons e es ih =>
      by_cases h : e.1 = key
      · simp [find?, h]
      · simp [find?, h, ih]

theorem find?_eq_none_iff {key : String} {es : List (String × α)} :
    find? key es = none ↔ ∀ e ∈ es, e.1 ≠ key := by
  induction es with
  | nil => simp
  | cons e es ih =>
      by_cases h : e.1 = key
      · simp [find?, h]
      · simp [find?, h, ih]

/-- From the end of a list, what is found is the last entry with the name. -/
theorem find?_reverse_eq_some_iff {key : String} {value : α} {es : List (String × α)} :
    find? key es.reverse = some value ↔
      ∃ front back, es = front ++ (key, value) :: back ∧ ∀ e ∈ back, e.1 ≠ key := by
  constructor
  · intro h
    induction es with
    | nil => simp at h
    | cons e es ih =>
        rw [List.reverse_cons, find?_append] at h
        -- the last entry with the name stands behind the first entry, or it is that entry
        cases hes : find? key es.reverse with
        | some v =>
            rw [hes] at h
            obtain rfl := Option.some.inj h
            obtain ⟨front, back, rfl, hback⟩ := ih hes
            exact ⟨e :: front, back, rfl, hback⟩
        | none =>
            rw [hes, Option.none_or, find?] at h
            by_cases hkey : e.1 = key
            · rw [if_pos hkey] at h
              obtain rfl := Option.some.inj h
              refine ⟨[], es, by rw [← hkey]; rfl, ?_⟩
              intro e' he'
              exact find?_eq_none_iff.1 hes e' (List.mem_reverse.2 he')
            · rw [if_neg hkey] at h
              cases h
  · rintro ⟨front, back, rfl, hback⟩
    have hnone : find? key back.reverse = none :=
      find?_eq_none_iff.2 fun e he => hback e (List.mem_reverse.1 he)
    rw [List.reverse_append, List.reverse_cons, find?_append, find?_append, hnone]
    simp [find?]

/-- **Of several entries with one name the last wins.** -/
theorem get?_ofList (es : List (String × α)) (key : String) :
    (ofList es).get? key = find? key es.reverse := by
  have hall : ∀ d : Dict α, (d.insertAll es).get? key = (find? key es.reverse).or (d.get? key) := by
    induction es with
    | nil => intro d; simp
    | cons e es ih =>
        intro d
        rw [insertAll_cons, ih, get?_insert, List.reverse_cons, find?_append, Option.or_assoc]
        by_cases h : e.1 = key <;> simp [find?, h]
  rw [ofList, hall, get?_empty, Option.or_none]

/-- A dictionary holds entries of the list that it was made from. -/
theorem mem_of_mem_toList_ofList {es : List (String × α)} {e : String × α}
    (h : e ∈ (ofList es).toList) : e ∈ es := by
  have hget : (ofList es).get? e.1 = some e.2 := find?_of_mem (ofList es).ordered h
  rw [get?_ofList] at hget
  exact List.mem_reverse.1 (mem_of_find?_eq_some hget)

/-! ### Entries in order -/

theorem mem_toList_iff {d : Dict α} {key : String} {value : α} :
    (key, value) ∈ d.toList ↔ d.get? key = some value :=
  ⟨find?_of_mem d.ordered, mem_of_find?_eq_some⟩

/-- An entry with a smaller name stands in front. -/
theorem mem_front_of_lt {d : Dict α} {front back : List (String × α)} {e e' : String × α}
    (h : d.toList = front ++ e :: back) (he' : e' ∈ d.toList) (hlt : e'.1 < e.1) : e' ∈ front := by
  have hordered := d.ordered
  rw [h, Ordered, List.pairwise_append, List.pairwise_cons] at hordered
  rw [h, List.mem_append, List.mem_cons] at he'
  rcases he' with hfront | rfl | hback
  · exact hfront
  · exact absurd hlt (String.lt_irrefl e'.1)
  · exact absurd hlt (String.lt_asymm (hordered.2.1.1 e' hback))

/-! ### Respelled names -/

/-- **Of several names that become one the entry of the greatest stays.** -/
theorem get?_mapKeys_iff {f : String → String} {d : Dict α} {name : String} {value : α} :
    (d.mapKeys f).get? name = some value ↔
      ∃ key, f key = name ∧ d.get? key = some value ∧
        ∀ key' ∈ d.keys, f key' = name → key' ≤ key := by
  have hordered := d.ordered
  rw [mapKeys, get?_ofList, find?_reverse_eq_some_iff]
  constructor
  · rintro ⟨front, back, hlist, hback⟩
    obtain ⟨l, l', hd, -, hl'⟩ := List.map_eq_append_iff.1 hlist
    obtain ⟨e, m, rfl, he, rfl⟩ := List.map_eq_cons_iff.1 hl'
    obtain ⟨rfl, rfl⟩ := Prod.mk.inj he
    refine ⟨e.1, rfl, mem_toList_iff.1 (hd ▸ List.mem_append_cons_self), ?_⟩
    intro key' hkey' heq
    obtain ⟨e', he', rfl⟩ := List.mem_map.1 hkey'
    rw [hd, List.mem_append, List.mem_cons] at he'
    rw [hd, Ordered, List.pairwise_append] at hordered
    rcases he' with hfront | rfl | hrest
    · exact String.not_lt.1 (String.lt_asymm (hordered.2.2 e' hfront e List.mem_cons_self))
    · exact String.le_refl e'.1
    · exact absurd heq (hback (f e'.1, e'.2) (List.mem_map_of_mem hrest))
  · rintro ⟨key, rfl, hget, hgreatest⟩
    obtain ⟨l, l', hd⟩ := List.append_of_mem (mem_toList_iff.2 hget)
    refine ⟨l.map fun e => (f e.1, e.2), l'.map fun e => (f e.1, e.2), by simp [hd], ?_⟩
    intro x hx heq
    obtain ⟨e, he, rfl⟩ := List.mem_map.1 hx
    rw [hd, Ordered, List.pairwise_append, List.pairwise_cons] at hordered
    have hkey : e.1 ∈ d.keys := by
      rw [keys, hd]
      exact List.mem_map_of_mem (List.mem_append_right _ (List.mem_cons_of_mem _ he))
    exact String.not_lt.2 (hgreatest e.1 hkey heq) (hordered.2.1.1 e he)

/-- A respelled entry is an entry under one of its spellings. -/
theorem exists_of_get?_mapKeys {f : String → String} {d : Dict α} {name : String} {value : α}
    (h : (d.mapKeys f).get? name = some value) : ∃ key, f key = name ∧ d.get? key = some value := by
  obtain ⟨key, hkey, hget, -⟩ := get?_mapKeys_iff.1 h
  exact ⟨key, hkey, hget⟩

/-- **Where no two names become one, respelling keeps every entry.** -/
theorem get?_mapKeys_eq_some_iff {f : String → String} {d : Dict α}
    (hinj : ∀ a ∈ d.keys, ∀ b ∈ d.keys, f a = f b → a = b) {name : String} {value : α} :
    (d.mapKeys f).get? name = some value ↔ ∃ key, f key = name ∧ d.get? key = some value := by
  refine ⟨exists_of_get?_mapKeys, ?_⟩
  rintro ⟨key, rfl, hget⟩
  have hkey : key ∈ d.keys := List.mem_map_of_mem (mem_of_find?_eq_some hget)
  refine get?_mapKeys_iff.2 ⟨key, rfl, hget, fun key' hkey' heq => ?_⟩
  obtain rfl := hinj key' hkey' key hkey heq
  exact String.le_refl key'

/-! ### Dictionaries from their own entries -/

/-- The entries of a dictionary make it up again. -/
theorem ofList_toList (d : Dict α) : ofList d.toList = d := by
  refine ext_get? fun key => ?_
  rw [ofList, get?_insertAll empty d.ordered, get?_empty, Option.or_none]
  rfl

/-- Two dictionaries have the same entries under the names on which their look-ups agree. -/
theorem filter_congr {d e : Dict α} {p : String → Bool}
    (h : ∀ key, p key = true → d.get? key = e.get? key) :
    (d.filter fun k _ => p k) = e.filter fun k _ => p k := by
  refine ext_get? fun key => ?_
  rw [get?_filter, get?_filter]
  split
  · next hp => exact h key hp
  · rfl

/-! ### Entries that are aimed at a name -/

section Aimed

variable {target : String → Option (String × (α → β))} {es : List (String × α)} {name : String}

/-- The entry that a key and its value make, where keys stand for names: the name that the key is
aimed at, with what the key makes of the value. -/
def aim? (target : String → Option (String × (α → β))) (e : String × α) : Option (String × β) :=
  (target e.1).map fun t => (t.1, t.2 e.2)

/-- The last key in a list that is aimed at a name. -/
def lastAimed? (target : String → Option (String × β)) (name : String) (keys : List String) :
    Option String :=
  keys.reverse.find? fun k => (target k).any fun t => t.1 == name

/-- No key in a list is greater than the last one that is aimed at the same name. -/
def LastIsGreatest (target : String → Option (String × β)) (keys : List String) : Prop :=
  ∀ k ∈ keys, ∀ t ∈ target k, ∀ last ∈ lastAimed? target t.1 keys, k ≤ last

instance (target : String → Option (String × β)) (keys : List String) :
    Decidable (LastIsGreatest target keys) :=
  inferInstanceAs (Decidable (∀ k ∈ keys, ∀ t ∈ target k,
    ∀ last ∈ lastAimed? target t.1 keys, k ≤ last))

/-- What the last key that is aimed at a name makes of its value. -/
theorem find?_reverse_filterMap_aim? {value : β} :
    find? name (es.filterMap (aim? target)).reverse = some value ↔
      ∃ front e back, es = front ++ e :: back ∧ aim? target e = some (name, value) ∧
        ∀ e' ∈ back, ∀ t ∈ target e'.1, t.1 ≠ name := by
  rw [find?_reverse_eq_some_iff]
  constructor
  · rintro ⟨front, back, hes, hback⟩
    obtain ⟨l, l', rfl, -, hl'⟩ := List.filterMap_eq_append_iff.1 hes
    obtain ⟨m, e, m', rfl, -, he, rfl⟩ := List.filterMap_eq_cons_iff.1 hl'
    refine ⟨l ++ m, e, m', by rw [List.append_assoc], he, ?_⟩
    intro e' he' t ht
    refine hback (t.1, t.2 e'.2) (List.mem_filterMap.2 ⟨e', he', ?_⟩)
    rw [aim?, Option.mem_def.1 ht]
    rfl
  · rintro ⟨front, e, back, rfl, he, hback⟩
    refine ⟨front.filterMap (aim? target), back.filterMap (aim? target), ?_, ?_⟩
    · rw [List.filterMap_append, List.filterMap_cons_some he]
    · intro x hx
      obtain ⟨e', he', hx⟩ := List.mem_filterMap.1 hx
      obtain ⟨t, ht, rfl⟩ := Option.map_eq_some_iff.1 hx
      exact hback e' he' t ht

/-- The last key that is aimed at a name, from where it stands. -/
theorem lastAimed?_of_append {front back : List String} {key : String} {t : String × β}
    {target : String → Option (String × β)} (hkey : target key = some t)
    (hback : ∀ k ∈ back, ∀ u ∈ target k, u.1 ≠ t.1) :
    lastAimed? target t.1 (front ++ key :: back) = some key := by
  have hnone : (back.reverse.find? fun k => (target k).any fun u => u.1 == t.1) = none := by
    rw [List.find?_eq_none]
    intro k hk
    rw [Option.any_eq_true]
    rintro ⟨u, hu, heq⟩
    exact hback k (List.mem_reverse.1 hk) u hu (by simpa using heq)
  rw [lastAimed?, List.reverse_append, List.reverse_cons, List.find?_append, List.find?_append,
    hnone]
  simp [hkey]

/-- **Where of the keys that are aimed at one name the last is the greatest, it makes no difference
whether the entries are taken in the order of the list or in that of their keys.** -/
theorem ofList_filterMap_aim? (h : LastIsGreatest target (es.map Prod.fst)) :
    ofList ((ofList es).toList.filterMap (aim? target)) = ofList (es.filterMap (aim? target)) := by
  refine ext_get? fun name => ?_
  rw [get?_ofList, get?_ofList]
  cases hlast : find? name (es.filterMap (aim? target)).reverse with
  | none =>
      -- the dictionary holds nothing but entries of the list
      rw [find?_eq_none_iff] at hlast ⊢
      intro x hx
      obtain ⟨e, he, hx⟩ := List.mem_filterMap.1 (List.mem_reverse.1 hx)
      have hmem : x ∈ es.filterMap (aim? target) :=
        List.mem_filterMap.2 ⟨e, mem_of_mem_toList_ofList he, hx⟩
      exact hlast x (List.mem_reverse.2 hmem)
  | some value =>
      obtain ⟨front, e, back, hes, he, hback⟩ := find?_reverse_filterMap_aim?.1 hlast
      obtain ⟨t, ht, htv⟩ := Option.map_eq_some_iff.1 he
      obtain ⟨rfl, rfl⟩ := Prod.mk.inj htv
      -- no key that is aimed at the name is greater than the last one
      have hle : ∀ e' ∈ es, ∀ u ∈ target e'.1, u.1 = t.1 → e'.1 ≤ e.1 := by
        intro e' he' u hu heq
        have hkeys : lastAimed? target t.1 (es.map Prod.fst) = some e.1 := by
          rw [hes, List.map_append, List.map_cons]
          refine lastAimed?_of_append ht ?_
          intro k hk v hv
          obtain ⟨b, hb, rfl⟩ := List.mem_map.1 hk
          exact hback b hb v hv
        exact h e'.1 (List.mem_map_of_mem he') u hu e.1 (heq ▸ hkeys)
      -- the last entry is in the dictionary, and behind it the keys are greater
      have hget : (ofList es).get? e.1 = some e.2 := by
        rw [get?_ofList, find?_reverse_eq_some_iff]
        refine ⟨front, back, hes, ?_⟩
        intro b hb heq
        exact hback b hb t (heq ▸ ht) rfl
      obtain ⟨front', back', hlist⟩ := List.append_of_mem (mem_of_find?_eq_some hget)
      refine find?_reverse_filterMap_aim?.2 ⟨front', e, back', hlist, he, ?_⟩
      intro b hb u hu heq
      have hordered : Ordered (front' ++ e :: back') := hlist ▸ (ofList es).ordered
      have hlt : e.1 < b.1 := (List.pairwise_cons.1 (List.pairwise_append.1 hordered).2.1).1 b hb
      have hmem : b ∈ es := by
        refine mem_of_mem_toList_ofList ?_
        rw [hlist]
        exact List.mem_append_right _ (List.mem_cons_of_mem e hb)
      exact String.not_lt.2 (hle b hmem u hu heq) hlt

end Aimed

end Circulation.Dict
