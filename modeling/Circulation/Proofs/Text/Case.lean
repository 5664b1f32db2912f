/-
**Changing the case of a text twice changes it once.**

The tables of the case mappings are long, but what matters about them is one check: no letter that
they give is one that they change.  The check takes both sets of letters as numbers whose binary
digits stand for code points, so that it comes to a single `and`.

Main definitions:

* `Run.members` — the code points of a run;
* `moved`, `targets` — the code points that tables change, and those that they give;
* `bits` — a set of numbers as the digits of one number;
* `recased`, `Settled` — a case mapping of one letter, and the checks on its tables.

Main results:

* `recased_of_mem_recased` — a letter that a mapping gives is left alone by it;
* `lower_lower`, `upper_upper` — **both mappings are idempotent**.
-/

import Circulation.Text.Case

set_option relaxedAutoImplicit false
set_option autoImplicit false

namespace Circulation.Text

/-! ### Sets of numbers -/

/-- The number whose binary digits at the places `ns` are set. -/
def bits (ns : List Nat) : Nat := ns.foldl (fun acc n => acc ||| 1 <<< n) 0

theorem testBit_bits (ns : List Nat) (m : Nat) : (bits ns).testBit m = decide (m ∈ ns) := by
  have hall : ∀ acc : Nat, (ns.foldl (fun acc n => acc ||| 1 <<< n) acc).testBit m =
      (acc.testBit m || decide (m ∈ ns)) := by
    induction ns with
    | nil => intro acc; simp
    | cons n ns ih =>
        intro acc
        rw [List.foldl_cons, ih, Nat.testBit_or, Nat.one_shiftLeft, Nat.testBit_two_pow]
        by_cases h : n = m
        · simp [h]
        · simp [h, Ne.symm h]
  rw [bits, hall, Nat.zero_testBit, Bool.false_or]

/-- Sets whose numbers have no digit in common have no member in common. -/
theorem notMem_of_bits {ns ms : List Nat} (h : bits ns &&& bits ms = 0) {n : Nat} (hn : n ∈ ns) :
    n ∉ ms := by
  intro hm
  have hbit := congrArg (Nat.testBit · n) h
  simp only [Nat.testBit_and, testBit_bits, hn, hm, decide_true, Bool.and_self, Nat.zero_testBit]
    at hbit
  cases hbit

/-! ### The letters of tables -/

/-- The code points of a run. -/
def Run.members (r : Run) : List Nat :=
  (List.range ((r.last - r.first) / r.step + 1)).map fun i => r.first + i * r.step

theorem Run.mem_members {r : Run} {n : Nat} (h : r.has n = true) : n ∈ r.members := by
  simp only [Run.has, Bool.and_eq_true, decide_eq_true_eq, beq_iff_eq] at h
  obtain ⟨⟨hfirst, hlast⟩, hstep⟩ := h
  refine List.mem_map.2 ⟨(n - r.first) / r.step, List.mem_range.2 ?_, ?_⟩
  · exact Nat.lt_succ_of_le (Nat.div_le_div_right (Nat.sub_le_sub_right hlast r.first))
  · have hdiv := Nat.div_add_mod (n - r.first) r.step
    rw [hstep, Nat.mul_comm] at hdiv
    omega

section Tables

variable (spellings : List (Nat × List Nat)) (shifts : List Shift)

/-- The code points that tables change. -/
def moved : List Nat := spellings.map Prod.fst ++ shifts.flatMap fun s => s.run.members

/-- The code points that tables give in place of others. -/
def targets : List Nat :=
  spellings.flatMap Prod.snd ++
    shifts.flatMap fun s => s.run.members.map fun n : Nat => (n + s.offset).toNat

variable {spellings shifts}

/-- What tables do not change is left alone. -/
theorem respelled_of_notMem_moved {n : Nat} (h : n ∉ moved spellings shifts) :
    respelled spellings shifts n = [Char.ofNat n] := by
  rw [moved, List.mem_append, not_or] at h
  have hlookup : spellings.lookup n = none := by
    rw [List.lookup_eq_none_iff]
    intro e he
    rw [bne_iff_ne]
    rintro rfl
    exact h.1 (List.mem_map_of_mem he)
  have hfind : shifts.find? (·.run.has n) = none := by
    rw [List.find?_eq_none]
    intro s hs hn
    exact h.2 (List.mem_flatMap.2 ⟨s, hs, Run.mem_members hn⟩)
  simp only [respelled, hlookup, shifted, hfind]

theorem toNat_ofNat {n : Nat} (h : n.isValidChar) : (Char.ofNat n).toNat = n := by
  rw [Char.ofNat, dif_pos h]
  rfl

/-- A letter is left alone, or it is replaced by letters that tables give. -/
theorem respelled_cases (hvalid : ∀ m ∈ targets spellings shifts, m.isValidChar) {c d : Char}
    (hd : d ∈ respelled spellings shifts c.toNat) :
    d = c ∧ respelled spellings shifts c.toNat = [c] ∨ d.toNat ∈ targets spellings shifts := by
  cases hlookup : spellings.lookup c.toNat with
  | some ns =>
      simp only [respelled, hlookup] at hd
      obtain ⟨m, hm, rfl⟩ := List.mem_map.1 hd
      obtain ⟨l, l', rfl, -⟩ := List.lookup_eq_some_iff.1 hlookup
      have hmem : m ∈ targets (l ++ (c.toNat, ns) :: l') shifts :=
        List.mem_append_left _ (List.mem_flatMap.2 ⟨_, List.mem_append_cons_self, hm⟩)
      rw [toNat_ofNat (hvalid m hmem)]
      exact Or.inr hmem
  | none =>
      simp only [respelled, hlookup, shifted] at hd ⊢
      cases hfind : shifts.find? (·.run.has c.toNat) with
      | some s =>
          rw [hfind] at hd
          have hrun : s.run.has c.toNat = true := by simpa using List.find?_some hfind
          have hmem : (c.toNat + s.offset).toNat ∈ targets spellings shifts :=
            List.mem_append_right _ (List.mem_flatMap.2
              ⟨s, List.mem_of_find?_eq_some hfind, List.mem_map_of_mem (Run.mem_members hrun)⟩)
          rw [List.mem_singleton.1 hd, toNat_ofNat (hvalid _ hmem)]
          exact Or.inr hmem
      | none =>
          rw [hfind] at hd
          rw [Char.ofNat_toNat] at hd ⊢
          exact Or.inl ⟨List.mem_singleton.1 hd, rfl⟩

end Tables

/-! ### Mappings of one letter -/

/-- The other case of one letter, by a mapping of ASCII letters and by tables for all others. -/
def recased (f : Char → Char) (spellings : List (Nat × List Nat)) (shifts : List Shift) (c : Char) :
    List Char :=
  if isAscii c then [f c] else respelled spellings shifts c.toNat

/-- A mapping whose letters are left alone by it; on ASCII it changes the letters of one run. -/
structure Settled (f : Char → Char) (ascii : Run) (spellings : List (Nat × List Nat))
    (shifts : List Shift) : Prop where
  /-- The tables give characters. -/
  valid : ∀ m ∈ targets spellings shifts, m.isValidChar
  /-- No letter that the tables give is one that is changed. -/
  apart : bits (targets spellings shifts) &&& bits (ascii.members ++ moved spellings shifts) = 0
  /-- Other ASCII characters are left alone. -/
  stays : ∀ n < 128, n ∉ ascii.members → f (Char.ofNat n) = Char.ofNat n
  /-- ASCII letters are changed once. -/
  twice : ∀ n < 128, isAscii (f (Char.ofNat n)) = true ∧
    f (f (Char.ofNat n)) = f (Char.ofNat n)

/-- **A letter that a mapping gives is left alone by it.** -/
theorem recased_of_mem_recased {f : Char → Char} {ascii : Run}
    {spellings : List (Nat × List Nat)} {shifts : List Shift}
    (h : Settled f ascii spellings shifts) {c d : Char} (hd : d ∈ recased f spellings shifts c) :
    recased f spellings shifts d = [d] := by
  unfold recased at hd
  by_cases hc : isAscii c = true
  · obtain ⟨hascii, htwice⟩ := h.twice c.toNat (of_decide_eq_true hc)
    rw [Char.ofNat_toNat] at hascii htwice
    rw [if_pos hc, List.mem_singleton] at hd
    rw [hd, recased, if_pos hascii, htwice]
  · rw [if_neg hc] at hd
    rcases respelled_cases h.valid hd with ⟨rfl, hself⟩ | htarget
    · rw [recased, if_neg hc, hself]
    · -- the letter comes out of the tables, so it is none of those that are changed
      have hnot := notMem_of_bits h.apart htarget
      rw [List.mem_append, not_or] at hnot
      unfold recased
      by_cases hascii : isAscii d = true
      · have hstays := h.stays d.toNat (of_decide_eq_true hascii) hnot.1
        rw [Char.ofNat_toNat] at hstays
        rw [if_pos hascii, hstays]
      · rw [if_neg hascii, respelled_of_notMem_moved hnot.2, Char.ofNat_toNat]

/-! ### Small letters -/

theorem settled_lower : Settled Char.toLower ⟨0x41, 0x5A, 1⟩ lowerSpellings lowerShifts where
  valid := by decide +kernel
  apart := by decide +kernel
  stays := by decide +kernel
  twice := by decide +kernel

/-- A letter that is given as a small form is its own small form. -/
theorem lowerChar_of_mem_lowerChar {c d : Char} (hd : d ∈ lowerChar c) : lowerChar d = [d] :=
  recased_of_mem_recased settled_lower hd

/-- A text in which no letter has another small form is its own small form. -/
theorem lowerFrom_of_forall {cs : List Char} (h : ∀ c ∈ cs, lowerChar c = [c]) (inWord : Bool) :
    lowerFrom inWord cs = cs := by
  induction cs generalizing inWord with
  | nil => rfl
  | cons c cs ih =>
      have hc := h c List.mem_cons_self
      -- a capital sigma has a small form
      have hsigma : c ≠ 'Σ' := by
        rintro rfl
        exact absurd hc (by decide +kernel)
      rw [lowerFrom, if_neg hsigma, hc, ih fun d hd => h d (List.mem_cons_of_mem c hd)]
      rfl

/-- No letter of a text in small letters has another small form. -/
theorem lowerChar_of_mem_lowerFrom {cs : List Char} {inWord : Bool} {d : Char}
    (hd : d ∈ lowerFrom inWord cs) : lowerChar d = [d] := by
  induction cs generalizing inWord with
  | nil => cases hd
  | cons c cs ih =>
      rw [lowerFrom, List.mem_append] at hd
      rcases hd with hd | hd
      · by_cases hsigma : c = 'Σ'
        · rw [if_pos hsigma, List.mem_singleton] at hd
          rw [hd]
          split <;> decide +kernel
        · rw [if_neg hsigma] at hd
          exact lowerChar_of_mem_lowerChar hd
      · exact ih hd

/-- **A text in small letters stays as it is.** -/
theorem lower_lower (s : String) : lower (lower s) = lower s := by
  have hchars : lowerChars (lowerChars s.toList) = lowerChars s.toList :=
    lowerFrom_of_forall (fun _ hc => lowerChar_of_mem_lowerFrom hc) false
  rw [lower, lower, String.toList_ofList, hchars]

/-! ### Capital letters -/

theorem settled_upper : Settled Char.toUpper ⟨0x61, 0x7A, 1⟩ upperSpellings upperShifts where
  valid := by decide +kernel
  apart := by decide +kernel
  stays := by decide +kernel
  twice := by decide +kernel

/-- A text in which no letter has another capital form is its own capital form. -/
theorem upperChars_of_forall {cs : List Char} (h : ∀ c ∈ cs, upperChar c = [c]) :
    upperChars cs = cs := by
  induction cs with
  | nil => rfl
  | cons c cs ih =>
      have hcs : cs.flatMap upperChar = cs := ih fun d hd => h d (List.mem_cons_of_mem c hd)
      rw [upperChars, List.flatMap_cons, hcs, h c List.mem_cons_self]
      rfl

/-- **A text in capital letters stays as it is.** -/
theorem upper_upper (s : String) : upper (upper s) = upper s := by
  have hchars : upperChars (upperChars s.toList) = upperChars s.toList := by
    refine upperChars_of_forall fun d hd => ?_
    obtain ⟨c, -, hc⟩ := List.mem_flatMap.1 hd
    exact recased_of_mem_recased settled_upper hc
  rw [upper, upper, String.toList_ofList, hchars]

end Circulation.Text
