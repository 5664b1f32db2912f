/-
**Which names come back from their other spelling.**

On the way to storage a capital is written as an underscore and a small letter, on the way to the
wire an underscore and a small letter become a capital.  What is lost on the way is a leading
capital, an underscore that stands before a small letter already, and a leading underscore that
joins its letter.  A name of ASCII characters comes back just if it has none of these.

Main definitions:

* `Casing.Unjoined` — no underscore stands before a small letter.

Main results:

* `Casing.unjoined_foldUnderscores` — on the wire no underscore stands before a small letter;
* `Casing.foldUnderscores_storageTail`, `Casing.storageTail_foldUnderscores` — the two scanners are
  inverse to each other where nothing is lost;
* `casing_roundTrips_iff` — **the names that come back, in both directions**.
-/

import Circulation.Proofs.Text.Case
import Circulation.Casing
import Mathlib.Data.Bool.AllAny

set_option relaxedAutoImplicit false
set_option autoImplicit false

namespace Circulation

namespace Casing

open Text

/-! ### ASCII letters -/

/-- What is checked for the first 128 code points holds of ASCII characters. -/
theorem of_isAscii {p : Char → Prop} (h : ∀ n < 128, p (Char.ofNat n)) {c : Char}
    (hc : isAscii c = true) : p c := by
  have hp := h c.toNat (of_decide_eq_true hc)
  rwa [Char.ofNat_toNat] at hp

/-- A capital has a small form that has it for its capital form. -/
theorem toLower_of_isUpper {c : Char} (hc : isAscii c = true) (hupper : c.isUpper = true) :
    c.toLower.isLower = true ∧ c.toLower.toUpper = c :=
  of_isAscii (p := fun c => c.isUpper = true → c.toLower.isLower = true ∧ c.toLower.toUpper = c)
    (by decide) hc hupper

/-- The small form of an ASCII character is one. -/
theorem isAscii_toLower {c : Char} (hc : isAscii c = true) : isAscii c.toLower = true :=
  of_isAscii (p := fun c => isAscii c.toLower = true) (by decide) hc

/-- What is no capital is its own small form. -/
theorem toLower_eq_self_iff {c : Char} (hc : isAscii c = true) :
    c.toLower = c ↔ c.isUpper = false :=
  of_isAscii (p := fun c => c.toLower = c ↔ c.isUpper = false) (by decide) hc

/-- A small letter is no capital. -/
theorem isUpper_of_isLower {c : Char} (hc : isAscii c = true) (hlower : c.isLower = true) :
    c.isUpper = false :=
  of_isAscii (p := fun c => c.isLower = true → c.isUpper = false) (by decide) hc hlower

/-- A small letter has a capital form that has it for its small form. -/
theorem toUpper_of_isLower {c : Char} (hc : isAscii c = true) (hlower : c.isLower = true) :
    isAscii c.toUpper = true ∧ c.toUpper.isUpper = true ∧ c.toUpper.toLower = c :=
  of_isAscii (p := fun c => c.isLower = true →
    isAscii c.toUpper = true ∧ c.toUpper.isUpper = true ∧ c.toUpper.toLower = c)
    (by decide) hc hlower

/-! ### Underscores in front of small letters -/

/-- No underscore stands before a small letter. -/
def Unjoined (cs : List Char) : Prop := ∀ c ∈ cs, c.isLower = true → ¬['_', c] <:+: cs

theorem unjoined_nil : Unjoined [] := by
  intro c hc
  cases hc

theorem unjoined_cons_iff {c : Char} {cs : List Char} :
    Unjoined (c :: cs) ↔ (c = '_' → ∀ d ∈ cs.head?, d.isLower = false) ∧ Unjoined cs := by
  constructor
  · intro h
    refine ⟨?_, ?_⟩
    · rintro rfl d hd
      obtain ⟨ds, rfl⟩ := List.head?_eq_some_iff.1 hd
      refine Bool.eq_false_iff.2 fun hsmall => ?_
      exact h d (List.mem_cons_of_mem _ List.mem_cons_self) hsmall ⟨[], ds, rfl⟩
    · intro d hd hsmall hoccurs
      exact h d (List.mem_cons_of_mem c hd) hsmall (List.infix_cons hoccurs)
  · rintro ⟨hhead, htail⟩ d - hsmall hoccurs
    rcases List.infix_cons_iff.1 hoccurs with hfront | hoccurs
    · obtain ⟨rfl, ds, rfl⟩ := List.cons_prefix_cons.1 hfront
      have hno := hhead rfl d rfl
      rw [hsmall] at hno
      cases hno
    · exact htail d (hoccurs.subset (by simp)) hsmall hoccurs

/-! ### What stands on the wire -/

/-- Joining leaves characters as they are, or makes capitals of small letters. -/
theorem mem_foldUnderscores {cs : List Char} {d : Char} (h : d ∈ foldUnderscores cs) :
    d ∈ cs ∨ ∃ c ∈ cs, c.isLower = true ∧ d = c.toUpper := by
  fun_induction foldUnderscores cs with
  | case1 => cases h
  | case2 c cs hsmall ih =>
      rcases List.mem_cons.1 h with rfl | h
      · exact Or.inr ⟨c, by simp, hsmall, rfl⟩
      · rcases ih h with h | ⟨c', hc', h⟩
        · exact Or.inl (by simp [h])
        · exact Or.inr ⟨c', by simp [hc'], h⟩
  | case3 c cs hsmall ih =>
      rcases List.mem_cons.1 h with rfl | h
      · exact Or.inl List.mem_cons_self
      · exact (ih h).imp (List.mem_cons_of_mem _)
          fun ⟨c', hc', h⟩ => ⟨c', List.mem_cons_of_mem _ hc', h⟩
  | case4 c cs hne ih =>
      rcases List.mem_cons.1 h with rfl | h
      · exact Or.inl List.mem_cons_self
      · exact (ih h).imp (List.mem_cons_of_mem _)
          fun ⟨c', hc', h⟩ => ⟨c', List.mem_cons_of_mem _ hc', h⟩

/-- What joining begins with: the capital of a joined letter, or what the name begins with. -/
theorem head?_foldUnderscores {cs : List Char} {d : Char} (h : d ∈ (foldUnderscores cs).head?) :
    (∃ c, c.isLower = true ∧ d = c.toUpper ∧ ['_', c] <+: cs) ∨ d ∈ cs.head? := by
  rcases cs with _ | ⟨c, cs⟩
  · exact Or.inr h
  · by_cases hline : c = '_'
    · subst hline
      cases cs with
      | nil => exact Or.inr h
      | cons c cs =>
          rw [foldUnderscores_underscore] at h
          split at h
          · next hsmall => exact Or.inl ⟨c, hsmall, (Option.some.inj h).symm, cs, rfl⟩
          · exact Or.inr h
    · rw [foldUnderscores_cons_of_ne hline] at h
      exact Or.inr h

/-- **On the wire no underscore stands before a small letter.** -/
theorem unjoined_foldUnderscores {cs : List Char} (hascii : ∀ c ∈ cs, isAscii c = true) :
    Unjoined (foldUnderscores cs) := by
  fun_induction foldUnderscores cs with
  | case1 => exact unjoined_nil
  | case2 c cs hsmall ih =>
      simp only [List.mem_cons, forall_eq_or_imp] at hascii
      refine unjoined_cons_iff.2 ⟨fun hline => ?_, ih hascii.2.2⟩
      have hcapital := (toUpper_of_isLower hascii.2.1 hsmall).2.1
      rw [hline] at hcapital
      cases hcapital
  | case3 c cs hsmall ih =>
      have htail : ∀ d ∈ c :: cs, isAscii d = true :=
        fun d hd => hascii d (List.mem_cons_of_mem _ hd)
      refine unjoined_cons_iff.2 ⟨fun _ d hd => ?_, ih htail⟩
      rcases head?_foldUnderscores hd with ⟨e, he, rfl, hfront⟩ | hd
      · -- what joining has made is a capital
        obtain ⟨hupper, hcapital, -⟩ := toUpper_of_isLower (htail e (hfront.subset (by simp))) he
        refine Bool.eq_false_iff.2 fun hlower => ?_
        rw [isUpper_of_isLower hupper hlower] at hcapital
        cases hcapital
      · obtain rfl : c = d := Option.some.inj hd
        exact Bool.eq_false_iff.2 hsmall
  | case4 c cs hne ih =>
      refine unjoined_cons_iff.2
        ⟨fun hline => ?_, ih fun d hd => hascii d (List.mem_cons_of_mem c hd)⟩
      -- an underscore that is not looked at further is the last character
      cases cs with
      | nil => exact fun d hd => absurd hd (Option.not_mem_none d)
      | cons d ds => exact absurd rfl (hne d ds hline)

/-! ### From storage to the wire -/

/-- What stands in storage is ASCII and no capital. -/
theorem isUpper_of_mem_storageTail {cs : List Char} (hascii : ∀ c ∈ cs, isAscii c = true)
    {d : Char} (hd : d ∈ storageTail cs) : isAscii d = true ∧ d.isUpper = false := by
  induction cs with
  | nil => cases hd
  | cons c cs ih =>
      have hc := hascii c List.mem_cons_self
      rw [storageTail_cons, isCapital_of_ascii hc, lowerChar_of_ascii hc, List.mem_append] at hd
      rcases hd with hd | hd
      · split at hd
        · next hcapital =>
            have hlower := isAscii_toLower hc
            rcases List.mem_cons.1 hd with rfl | hd
            · exact ⟨rfl, rfl⟩
            · obtain rfl := List.mem_singleton.1 hd
              exact ⟨hlower, isUpper_of_isLower hlower (toLower_of_isUpper hc hcapital).1⟩
        · next hcapital =>
            obtain rfl := List.mem_singleton.1 hd
            exact ⟨hc, Bool.eq_false_iff.2 hcapital⟩
      · exact ih (fun c hc => hascii c (List.mem_cons_of_mem _ hc)) hd

/-- A name in storage differs from the spelling behind a first character at most in lacking the
underscore in front. -/
theorem mem_storageTail_of_mem_storageChars {cs : List Char} {d : Char}
    (hd : d ∈ storageChars cs) : d ∈ storageTail cs := by
  cases cs with
  | nil => exact hd
  | cons c cs =>
      rw [storageChars, List.mem_append] at hd
      rw [storageTail_cons, List.mem_append]
      refine hd.imp_left fun hd => ?_
      by_cases hcapital : isCapital c = true
      · rw [if_pos hcapital] at hd ⊢
        exact List.mem_cons_of_mem '_' hd
      · rwa [if_neg hcapital] at hd ⊢

/-- **Joining undoes the spelling of storage** where no underscore stands before a small letter. -/
theorem foldUnderscores_storageTail {cs : List Char} (hascii : ∀ c ∈ cs, isAscii c = true)
    (h : Unjoined cs) : foldUnderscores (storageTail cs) = cs := by
  induction cs with
  | nil => rfl
  | cons c cs ih =>
      have hc := hascii c List.mem_cons_self
      have hcs : ∀ d ∈ cs, isAscii d = true := fun d hd => hascii d (List.mem_cons_of_mem c hd)
      obtain ⟨hhead, htail⟩ := unjoined_cons_iff.1 h
      rw [storageTail_cons, isCapital_of_ascii hc]
      split
      · next hcapital =>
          obtain ⟨hsmall, hback⟩ := toLower_of_isUpper hc hcapital
          rw [lowerChar_of_ascii hc, List.cons_append, List.singleton_append,
            foldUnderscores_underscore, if_pos hsmall, hback, ih hcs htail]
      · rw [List.singleton_append]
        by_cases hline : c = '_'
        · subst hline
          cases cs with
          | nil => rfl
          | cons d ds =>
              -- behind the underscore stands another one, or what stood there before
              obtain ⟨e, es, hes, hsmall⟩ :
                  ∃ e es, storageTail (d :: ds) = e :: es ∧ e.isLower = false := by
                rw [storageTail_cons]
                split
                · exact ⟨_, _, rfl, rfl⟩
                · exact ⟨_, _, rfl, hhead rfl d rfl⟩
              rw [hes, foldUnderscores_underscore, hsmall, ← hes, ih hcs htail]
              rfl
        · rw [foldUnderscores_cons_of_ne hline, ih hcs htail]

/-- Without a leading capital every capital gets its underscore. -/
theorem storageChars_eq_storageTail {cs : List Char} (h : ∀ c ∈ cs.head?, isCapital c = false) :
    storageChars cs = storageTail cs := by
  cases cs with
  | nil => rfl
  | cons c cs => rw [storageChars, storageTail_cons, h c rfl]; rfl

/-- A name is its own small form if it has no capitals. -/
theorem lowerChars_eq_self_iff {cs : List Char} (hascii : ∀ c ∈ cs, isAscii c = true) :
    lowerChars cs = cs ↔ ∀ c ∈ cs, c.isUpper = false := by
  have hself : cs.map Char.toLower = cs ↔ cs.map Char.toLower = cs.map id := by rw [List.map_id]
  rw [lowerChars_of_ascii (List.all_eq_true.2 hascii), hself, List.map_inj_left]
  exact forall₂_congr fun c hc => toLower_eq_self_iff (hascii c hc)

/-- **A name comes back from storage** just if it has no leading capital and no underscore before a
small letter. -/
theorem wireChars_storageChars_iff {cs : List Char} (hascii : ∀ c ∈ cs, isAscii c = true) :
    wireChars (storageChars cs) = cs ↔
      (∀ c ∈ cs.head?, c.isUpper = false) ∧ Unjoined cs := by
  have hstorage : ∀ d ∈ storageChars cs, isAscii d = true ∧ d.isUpper = false := fun d hd =>
    isUpper_of_mem_storageTail hascii (mem_storageTail_of_mem_storageChars hd)
  have hlower : lowerChars (storageChars cs) = storageChars cs :=
    (lowerChars_eq_self_iff fun d hd => (hstorage d hd).1).2 fun d hd => (hstorage d hd).2
  rw [wireChars, hlower]
  constructor
  · intro h
    refine ⟨fun c hc => ?_, h ▸ unjoined_foldUnderscores fun d hd => (hstorage d hd).1⟩
    -- a leading capital is a small letter in storage, and on the wire it is no capital again
    obtain ⟨cs, rfl⟩ := List.head?_eq_some_iff.1 hc
    refine Bool.eq_false_iff.2 fun hcapital => ?_
    have hc := hascii c List.mem_cons_self
    have hsmall := (toLower_of_isUpper hc hcapital).1
    have hline : c.toLower ≠ '_' := by
      intro heq
      rw [heq] at hsmall
      cases hsmall
    rw [storageChars, isCapital_of_ascii hc, if_pos hcapital, lowerChar_of_ascii hc,
      List.singleton_append, foldUnderscores_cons_of_ne hline] at h
    have hself := (toLower_eq_self_iff hc).1 (List.cons.inj h).1
    rw [hcapital] at hself
    cases hself
  · rintro ⟨hhead, hunjoined⟩
    rw [storageChars_eq_storageTail, foldUnderscores_storageTail hascii hunjoined]
    intro c hc
    rw [isCapital_of_ascii (hascii c (List.mem_of_mem_head? hc)), hhead c hc]

/-! ### From the wire to storage -/

/-- **The spelling of storage undoes joining** where there are no capitals. -/
theorem storageTail_foldUnderscores {cs : List Char} (hascii : ∀ c ∈ cs, isAscii c = true)
    (h : ∀ c ∈ cs, c.isUpper = false) : storageTail (foldUnderscores cs) = cs := by
  have hkept : ∀ c ∈ cs, isCapital c = false := fun c hc => by
    rw [isCapital_of_ascii (hascii c hc), h c hc]
  fun_induction foldUnderscores cs with
  | case1 => rfl
  | case2 c cs hsmall ih =>
      simp only [List.mem_cons, forall_eq_or_imp] at hascii h hkept
      obtain ⟨hc, hcapital, hback⟩ := toUpper_of_isLower hascii.2.1 hsmall
      rw [storageTail_cons, isCapital_of_ascii hc, if_pos hcapital, lowerChar_of_ascii hc, hback,
        ih hascii.2.2 h.2.2 hkept.2.2]
      rfl
  | case3 c cs hsmall ih =>
      rw [List.forall_mem_cons] at hascii h hkept
      rw [storageTail_cons, ih hascii.2 h.2 hkept.2]
      rfl
  | case4 c cs hne ih =>
      rw [List.forall_mem_cons] at hascii h hkept
      rw [storageTail_cons, hkept.1, ih hascii.2 h.2 hkept.2]
      rfl

/-- What stands on the wire is ASCII. -/
theorem isAscii_of_mem_wireChars {cs : List Char} (hascii : ∀ c ∈ cs, isAscii c = true) {d : Char}
    (hd : d ∈ wireChars cs) : isAscii d = true := by
  have hlower : ∀ c ∈ lowerChars cs, isAscii c = true := by
    rw [lowerChars_of_ascii (List.all_eq_true.2 hascii), List.forall_mem_map]
    exact fun c hc => isAscii_toLower (hascii c hc)
  rcases mem_foldUnderscores hd with hd | ⟨c, hc, hsmall, rfl⟩
  · exact hlower d hd
  · exact (toUpper_of_isLower (hlower c hc) hsmall).1

/-- **A name comes back from the wire** just if it has no capitals and no leading underscore that
joins a letter. -/
theorem storageChars_wireChars_iff {cs : List Char} (hascii : ∀ c ∈ cs, isAscii c = true) :
    storageChars (wireChars cs) = cs ↔
      (∀ c ∈ cs, c.isUpper = false) ∧ ∀ c ∈ cs, c.isAlpha = true → ¬['_', c] <+: cs := by
  constructor
  · intro h
    have hsmall : ∀ c ∈ cs, c.isUpper = false := by
      intro c hc
      rw [← h] at hc
      exact (isUpper_of_mem_storageTail (fun d hd => isAscii_of_mem_wireChars hascii hd)
        (mem_storageTail_of_mem_storageChars hc)).2
    refine ⟨hsmall, ?_⟩
    rintro c hc hletter ⟨ds, rfl⟩
    -- the leading underscore is joined with its letter, and a leading capital gets none
    have hc' := hascii c hc
    have hlower : c.isLower = true := by
      change (c.isUpper || c.isLower) = true at hletter
      rwa [hsmall c hc, Bool.false_or] at hletter
    obtain ⟨hcapital, hupper, hback⟩ := toUpper_of_isLower hc' hlower
    rw [wireChars, (lowerChars_eq_self_iff hascii).2 hsmall, List.cons_append, List.cons_append,
      foldUnderscores_underscore, if_pos hlower, storageChars, isCapital_of_ascii hcapital,
      if_pos hupper, lowerChar_of_ascii hcapital, hback] at h
    rw [(List.cons.inj h).1] at hlower
    cases hlower
  · rintro ⟨hsmall, hletter⟩
    rw [wireChars, (lowerChars_eq_self_iff hascii).2 hsmall, storageChars_eq_storageTail,
      storageTail_foldUnderscores hascii hsmall]
    intro d hd
    rcases head?_foldUnderscores hd with ⟨c, hlower, -, hfront⟩ | hd
    · refine absurd hfront (hletter c (hfront.subset (by simp)) ?_)
      change (c.isUpper || c.isLower) = true
      rw [hlower, Bool.or_true]
    · have hd := List.mem_of_mem_head? hd
      rw [isCapital_of_ascii (hascii d hd), hsmall d hd]

end Casing

/-- **The names that come back from their other spelling.**  A name of ASCII characters comes back
from storage just if it has no leading capital and no underscore before a small letter, and from the
wire just if it has no capital and does not begin with an underscore and a letter. -/
theorem casing_roundTrips_iff {name : String} (hascii : name.toList.all Text.isAscii = true) :
    (toWireCasing (toStorageCasing name) = name ↔
      (∀ c ∈ name.toList.head?, c.isUpper = false) ∧
        ∀ c ∈ name.toList, c.isLower = true → ¬['_', c] <:+: name.toList) ∧
    (toStorageCasing (toWireCasing name) = name ↔
      (∀ c ∈ name.toList, c.isUpper = false) ∧
        ∀ c ∈ name.toList, c.isAlpha = true → ¬['_', c] <+: name.toList) := by
  have hascii := List.all_eq_true.1 hascii
  refine ⟨?_, ?_⟩
  · rw [toWireCasing, toStorageCasing, String.toList_ofList, ← String.toList_inj,
      String.toList_ofList]
    exact Casing.wireChars_storageChars_iff hascii
  · rw [toStorageCasing, toWireCasing, String.toList_ofList, ← String.toList_inj,
      String.toList_ofList]
    exact Casing.storageChars_wireChars_iff hascii

/-- Underscores in a row, before a digit, before a capital and at the end come back from storage;
without the capital they come back from the wire as well. -/
theorem casing_roundTrips_iff_streetLine :
    ("street__Line_2_".toList.all Text.isAscii = true ∧
      toWireCasing (toStorageCasing "street__Line_2_") = "street__Line_2_") ∧
    ("__street_line_2_".toList.all Text.isAscii = true ∧
      toStorageCasing (toWireCasing "__street_line_2_") = "__street_line_2_") ∧
    ("_street".toList.all Text.isAscii = true ∧
      toStorageCasing (toWireCasing "_street") ≠ "_street" ∧
      toWireCasing (toStorageCasing "_street") ≠ "_street") := by
  have hascii : ∀ name ∈ ["street__Line_2_", "__street_line_2_", "_street"],
      name.toList.all Text.isAscii = true := by decide +kernel
  simp only [List.forall_mem_cons] at hascii
  obtain ⟨hstorage, hwire, hneither, -⟩ := hascii
  refine ⟨⟨hstorage, (casing_roundTrips_iff hstorage).1.2 ⟨?_, ?_⟩⟩,
    ⟨hwire, (casing_roundTrips_iff hwire).2.2 ⟨?_, ?_⟩⟩, hneither, ?_, ?_⟩
  · intro c hc
    rw [show "street__Line_2_".toList.head? = some 's' by decide +kernel] at hc
    obtain rfl := Option.some.inj hc
    rfl
  · exact List.all_iff_forall_prop.1 (by decide +kernel)
  · exact List.all_iff_forall_prop.1 (by decide +kernel)
  · exact List.all_iff_forall_prop.1 (by decide +kernel)
  · intro h
    have hmark : ['_', 's'] <+: "_street".toList := by decide +kernel
    exact ((casing_roundTrips_iff hneither).2.1 h).2 's' (by decide +kernel) rfl hmark
  · intro h
    have hmark : ['_', 's'] <:+: "_street".toList := by decide +kernel
    exact ((casing_roundTrips_iff hneither).1.1 h).2 's' (by decide +kernel) rfl hmark

end Circulation
