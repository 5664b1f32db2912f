/-
**Dictionaries: finite maps from names to values, kept in the order of the names.**

A dictionary is a list of entries whose names increase strictly in the order of code points.  The
order is part of the type, so two dictionaries with the same look-ups are equal, and whoever lists
one sees its names sorted and each of them once.

Main definitions:

* `Dict` — the entries with their order;
* `Dict.get?`, `Dict.insert`, `Dict.erase`, `Dict.contains` — single entries;
* `Dict.ofList`, `Dict.union`, `Dict.filter`, `Dict.mapKeys` — whole dictionaries, where of several
  entries with one name the last wins.

Main results:

* `Dict.get?_insert`, `Dict.get?_erase` — what a look-up finds after a change;
* `Dict.ext_get?` — look-ups determine the dictionary.
-/

set_option relaxedAutoImplicit false
set_option autoImplicit false

namespace Circulation

/-! ### Entries in order -/

/-- Entries are in order when their names increase strictly. -/
abbrev Ordered {α : Type} (entries : List (String × α)) : Prop :=
  entries.Pairwise fun a b => a.1 < b.1

/-- A finite map from names to values, listed by name. -/
structure Dict (α : Type) where
  toList : List (String × α)
  ordered : Ordered toList

namespace Dict

variable {α β : Type}

/-- The value under a name in a list of entries. -/
def find? (key : String) : List (String × α) → Option α
  | [] => none
  | e :: es => if e.1 = key then some e.2 else find? key es

/-- Put an entry at its place, in place of one with the same name. -/
def put (key : String) (value : α) : List (String × α) → List (String × α)
  | [] => [(key, value)]
  | e :: es =>
      if key < e.1 then (key, value) :: e :: es
      else if key = e.1 then (key, value) :: es
      else e :: put key value es

@[simp] theorem find?_nil (key : String) : find? key ([] : List (String × α)) = none := rfl

@[simp] theorem put_nil (key : String) (value : α) : put key value [] = [(key, value)] := rfl

/-- What `put` holds is the new entry or an old one. -/
theorem mem_put {key : String} {value : α} {es : List (String × α)} {a : String × α}
    (h : a ∈ put key value es) : a = (key, value) ∨ a ∈ es := by
  induction es with
  | nil => simpa [put] using h
  | cons e es ih =>
      simp only [put] at h
      split at h
      · rcases List.mem_cons.1 h with h | h
        · exact Or.inl h
        · exact Or.inr h
      · split at h
        · rcases List.mem_cons.1 h with h | h
          · exact Or.inl h
          · exact Or.inr (List.mem_cons_of_mem _ h)
        · rcases List.mem_cons.1 h with rfl | h
          · exact Or.inr List.mem_cons_self
          · rcases ih h with h | h
            · exact Or.inl h
            · exact Or.inr (List.mem_cons_of_mem _ h)

/-- Names that are neither below nor equal are above. -/
theorem lt_of_not_lt_of_ne {a b : String} (h₁ : ¬ a < b) (h₂ : a ≠ b) : b < a :=
  Decidable.byContradiction fun h =>
    h₂ (String.le_antisymm (String.not_lt.1 h) (String.not_lt.1 h₁))

/-- Putting an entry keeps the order. -/
theorem ordered_put (key : String) (value : α) {es : List (String × α)} (h : Ordered es) :
    Ordered (put key value es) := by
  induction es with
  | nil => simp [put, Ordered]
  | cons e es ih =>
      rw [Ordered, List.pairwise_cons] at h
      simp only [put]
      split
      · next hlt =>
          refine List.pairwise_cons.2 ⟨fun a ha => ?_, List.pairwise_cons.2 h⟩
          rcases List.mem_cons.1 ha with rfl | ha
          · exact hlt
          · exact String.lt_trans hlt (h.1 a ha)
      · next hnlt =>
          split
          · next heq => exact List.pairwise_cons.2 ⟨fun a ha => heq ▸ h.1 a ha, h.2⟩
          · next hne =>
              refine List.pairwise_cons.2 ⟨fun a ha => ?_, ih h.2⟩
              rcases mem_put ha with rfl | ha
              · exact lt_of_not_lt_of_ne hnlt hne
              · exact h.1 a ha

/-! ### Single entries -/

/-- The dictionary without entries. -/
def empty : Dict α := ⟨[], List.Pairwise.nil⟩

instance : Inhabited (Dict α) := ⟨empty⟩

instance [DecidableEq α] : DecidableEq (Dict α) := fun a b =>
  if h : a.toList = b.toList then
    isTrue (by cases a; cases b; simp_all)
  else isFalse fun hab => h (hab ▸ rfl)

/-- The value under a name. -/
def get? (d : Dict α) (key : String) : Option α := find? key d.toList

/-- Whether a name has a value. -/
def contains (d : Dict α) (key : String) : Bool := (d.get? key).isSome

/-- Give a name a value, in place of the one it had. -/
def insert (d : Dict α) (key : String) (value : α) : Dict α :=
  ⟨put key value d.toList, ordered_put key value d.ordered⟩

/-- The entries that satisfy a condition. -/
def filter (p : String → α → Bool) (d : Dict α) : Dict α :=
  ⟨d.toList.filter fun e => p e.1 e.2, d.ordered.filter _⟩

/-- Take the value of a name away. -/
def erase (d : Dict α) (key : String) : Dict α := d.filter fun k _ => k != key

/-- The names, in order. -/
def keys (d : Dict α) : List String := d.toList.map Prod.fst

/-- The number of entries. -/
def size (d : Dict α) : Nat := d.toList.length

/-- Whether there are no entries. -/
def isEmpty (d : Dict α) : Bool := d.toList.isEmpty

/-! ### Whole dictionaries -/

/-- Insert entries from the left to the right, so that of one name the last wins. -/
def insertAll (d : Dict α) (entries : List (String × α)) : Dict α :=
  entries.foldl (fun d e => d.insert e.1 e.2) d

/-- The dictionary of a list of entries; of one name the last wins. -/
def ofList (entries : List (String × α)) : Dict α := empty.insertAll entries

/-- Both dictionaries together; where both have a name the second wins. -/
def union (d e : Dict α) : Dict α := d.insertAll e.toList

/-- The same values under other names; where two names become one the later entry wins. -/
def mapKeys (f : String → String) (d : Dict α) : Dict α :=
  ofList (d.toList.map fun e => (f e.1, e.2))

/-! ### What look-ups find -/

@[simp] theorem get?_empty (key : String) : (empty : Dict α).get? key = none := rfl

@[simp] theorem insertAll_nil (d : Dict α) : d.insertAll [] = d := rfl

@[simp] theorem insertAll_cons (d : Dict α) (e : String × α) (es : List (String × α)) :
    d.insertAll (e :: es) = (d.insert e.1 e.2).insertAll es := rfl

theorem find?_put (key key' : String) (value : α) (es : List (String × α)) :
    find? key' (put key value es) = if key = key' then some value else find? key' es := by
  induction es with
  | nil => simp [find?]
  | cons e es ih =>
      simp only [put]
      split
      · simp [find?]
      · split
        · next heq =>
            subst heq
            by_cases h : e.1 = key' <;> simp [find?, h]
        · next hne =>
            by_cases h : e.1 = key'
            · have hkey : key ≠ key' := fun hk => hne (hk.trans h.symm)
              simp [find?, h, hkey]
            · simp [find?, h, ih]

/-- A look-up after an insertion. -/
theorem get?_insert (d : Dict α) (key key' : String) (value : α) :
    (d.insert key value).get? key' = if key = key' then some value else d.get? key' :=
  find?_put key key' value d.toList

theorem find?_filter_ne (key key' : String) (es : List (String × α)) :
    find? key' (es.filter fun e => e.1 != key) = if key = key' then none else find? key' es := by
  induction es with
  | nil => simp
  | cons e es ih =>
      by_cases h : e.1 = key
      · by_cases hk : key = key' <;> simp_all [find?]
      · by_cases hk : e.1 = key'
        · have hne : key ≠ key' := fun hkk => h (hk.trans hkk.symm)
          have hb : (key' != key) = true := by simpa using Ne.symm hne
          simp [find?, hk, hb, hne]
        · simp [find?, h, hk, ih]

/-- A look-up after a removal. -/
theorem get?_erase (d : Dict α) (key key' : String) :
    (d.erase key).get? key' = if key = key' then none else d.get? key' :=
  find?_filter_ne key key' d.toList

/-! ### Look-ups determine the dictionary -/

/-- Below the first name of an ordered list nothing is found. -/
theorem find?_eq_none_of_lt {es : List (String × α)} {key : String}
    (h : ∀ e ∈ es, key < e.1) : find? key es = none := by
  induction es with
  | nil => rfl
  | cons e es ih =>
      have hne : e.1 ≠ key := fun he => String.lt_irrefl key (he ▸ h e List.mem_cons_self)
      simp [find?, hne, ih fun e' he' => h e' (List.mem_cons_of_mem _ he')]

/-- A name that a look-up finds stands at an entry. -/
theorem mem_of_find?_eq_some {es : List (String × α)} {key : String} {value : α}
    (h : find? key es = some value) : (key, value) ∈ es := by
  induction es with
  | nil => simp at h
  | cons e es ih =>
      simp only [find?] at h
      split at h
      · next he =>
          rw [← he, ← Option.some.inj h]
          exact List.mem_cons_self
      · exact List.mem_cons_of_mem _ (ih h)

/-- In an ordered list every entry is found under its name. -/
theorem find?_of_mem {es : List (String × α)} (h : Ordered es) {e : String × α} (he : e ∈ es) :
    find? e.1 es = some e.2 := by
  induction es with
  | nil => simp at he
  | cons a es ih =>
      rw [Ordered, List.pairwise_cons] at h
      rcases List.mem_cons.1 he with rfl | he
      · simp [find?]
      · have hne : a.1 ≠ e.1 := fun hae => String.lt_irrefl e.1 (hae ▸ h.1 e he)
        simp [find?, hne, ih h.2 he]

theorem eq_of_find?_eq {es fs : List (String × α)} (he : Ordered es) (hf : Ordered fs)
    (h : ∀ key, find? key es = find? key fs) : es = fs := by
  induction es generalizing fs with
  | nil =>
      cases fs with
      | nil => rfl
      | cons f fs =>
          have := h f.1
          simp [find?] at this
  | cons e es ih =>
      cases fs with
      | nil =>
          have := h e.1
          simp [find?] at this
      | cons f fs =>
          rw [Ordered, List.pairwise_cons] at he hf
          have hkey : e.1 = f.1 := by
            by_cases hef : e.1 = f.1
            · exact hef
            · exfalso
              have h₁ : (e.1, e.2) ∈ f :: fs :=
                mem_of_find?_eq_some (by rw [← h e.1]; simp [find?])
              have h₂ : (f.1, f.2) ∈ e :: es :=
                mem_of_find?_eq_some (by rw [h f.1]; simp [find?])
              rcases List.mem_cons.1 h₁ with h₁ | h₁
              · exact hef (congrArg Prod.fst h₁)
              · rcases List.mem_cons.1 h₂ with h₂ | h₂
                · exact hef (congrArg Prod.fst h₂).symm
                · exact String.lt_irrefl _ (String.lt_trans (hf.1 _ h₁) (he.1 _ h₂))
          have hval : e.2 = f.2 := by
            have := h e.1
            simp only [find?, if_pos, hkey] at this
            exact Option.some.inj this
          have htail : es = fs := by
            refine ih he.2 hf.2 fun key => ?_
            by_cases hk : e.1 = key
            · subst hk
              rw [find?_eq_none_of_lt he.1, find?_eq_none_of_lt (hkey ▸ hf.1)]
            · have := h key
              simpa [find?, hk, ← hkey] using this
          rw [htail, show e = f from Prod.ext hkey hval]

/-- **Look-ups determine the dictionary.** -/
theorem ext_get? {d e : Dict α} (h : ∀ key, d.get? key = e.get? key) : d = e := by
  have hl : d.toList = e.toList := eq_of_find?_eq d.ordered e.ordered h
  cases d
  cases e
  simp_all

end Dict

end Circulation
