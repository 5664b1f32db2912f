/-
**Of the pairs for one place of a query the last counts, and no other order matters.**

Every key has a place in a query: the filter on a name, whatever its token is, or a parameter.  A
pair puts something at the place of its key and leaves all other places alone.  So a query holds at
each place what the last pair for it puts there, and pairs for different places can be exchanged.

Main definitions:

* `Query.Place`, `Query.placeOf` — the places of a query, and the one that a key has;
* `Query.at?`, `Query.made` — what a query holds at a place, and what a pair puts there;
* `Query.IsLast` — a pair that stands last among those for its place.

Main results:

* `Query.at?_insert`, `Query.at?_ofPairs_append` — one pair, and all pairs of a list;
* `Query.at?_ofPairs_eq_some_iff` — **a query holds what the last pair puts there**;
* `Query.ofPairs_eq_of_rearranged` — **what keeps the order at each place changes nothing**;
* `Query.lastPairs_count` — all of this for filters and parameters.
-/

import Circulation.Filter.Query
import Circulation.Proofs.Filter.Query
import Mathlib.Logic.Equiv.Defs

set_option relaxedAutoImplicit false
set_option autoImplicit false

namespace Circulation.Query

open Circulation.Filter

/-! ### Places -/

/-- The places of a query: a filter on each name, and a parameter of each name. -/
inductive Place where
  | filter (name : String)
  | param (key : String)
deriving DecidableEq

/-- The place of a key; the token of a filter makes no difference. -/
def placeOf (key : String) : Place :=
  match Target.ofKey key with
  | .filter name _ => .filter name
  | .param key => .param key

/-- What a query holds at a place: a filter or the value of a parameter. -/
def at? (q : Query) : Place → Option (Descriptor ⊕ String)
  | .filter name => (q.filters.get? name).map .inl
  | .param key => (q.params.get? key).map .inr

/-- What a pair puts at the place of its key. -/
def made (p : String × String) : Descriptor ⊕ String :=
  match Target.ofKey p.1 with
  | .filter _ token => .inl (.ofToken token p.2)
  | .param _ => .inr p.2

/-- Queries that hold the same at every place are equal. -/
theorem ext_at? {q q' : Query} (h : ∀ place, q.at? place = q'.at? place) : q = q' := by
  have hfilters : q.filters = q'.filters := Dict.ext_get? fun name =>
    Option.map_injective (fun _ _ => Sum.inl.inj) (h (.filter name))
  have hparams : q.params = q'.params := Dict.ext_get? fun key =>
    Option.map_injective (fun _ _ => Sum.inr.inj) (h (.param key))
  cases q
  cases q'
  simp_all

/-- **A pair puts something at its own place, and leaves the others alone.** -/
theorem at?_insert (q : Query) (p : String × String) (place : Place) :
    (q.insert p.1 p.2).at? place =
      if placeOf p.1 = place then some (made p) else q.at? place := by
  unfold insert placeOf made
  cases Target.ofKey p.1 with
  | filter name token =>
      cases place with
      | filter name' =>
          by_cases hname : name = name' <;> simp [at?, Dict.get?_insert, hname]
      | param key => rfl
  | param key =>
      cases place with
      | filter name => rfl
      | param key' => by_cases hkey : key = key' <;> simp [at?, Dict.get?_insert, hkey]

@[simp] theorem at?_empty (place : Place) : (ofPairs []).at? place = none := by
  cases place <;> rfl

/-- **Of two lists of pairs the second goes first.** -/
theorem at?_ofPairs_append (front back : List (String × String)) (place : Place) :
    (ofPairs (front ++ back)).at? place =
      ((ofPairs back).at? place).or ((ofPairs front).at? place) := by
  -- from any query on, what the pairs put somewhere goes before what was there
  have hall : ∀ (pairs : List (String × String)) (q : Query),
      (pairs.foldl (fun q p => q.insert p.1 p.2) q).at? place =
        ((ofPairs pairs).at? place).or (q.at? place) := by
    intro pairs
    induction pairs with
    | nil => intro q; simp
    | cons p pairs ih =>
        intro q
        have hcons : ofPairs (p :: pairs) =
            pairs.foldl (fun q p => q.insert p.1 p.2) (empty.insert p.1 p.2) := rfl
        rw [List.foldl_cons, ih, hcons, ih, Option.or_assoc, at?_insert, at?_insert]
        by_cases hplace : placeOf p.1 = place
        · simp [hplace]
        · rw [if_neg hplace, if_neg hplace]
          cases place <;> rfl
  rw [ofPairs, List.foldl_append, hall]
  rfl

theorem at?_ofPairs_cons (p : String × String) (pairs : List (String × String)) (place : Place) :
    (ofPairs (p :: pairs)).at? place =
      ((ofPairs pairs).at? place).or (if placeOf p.1 = place then some (made p) else none) := by
  have hone : (ofPairs [p]).at? place = if placeOf p.1 = place then some (made p) else none := by
    change (empty.insert p.1 p.2).at? place = _
    rw [at?_insert]
    congr 1
    exact at?_empty place
  rw [← List.singleton_append, at?_ofPairs_append, hone]

/-- A pair makes no difference at other places. -/
theorem at?_ofPairs_of_ne {front back : List (String × String)} {p : String × String}
    {place : Place} (h : placeOf p.1 ≠ place) :
    (ofPairs (front ++ p :: back)).at? place = (ofPairs (front ++ back)).at? place := by
  rw [at?_ofPairs_append, at?_ofPairs_append, at?_ofPairs_cons, if_neg h, Option.or_none]

/-! ### The last pair -/

/-- A query holds nothing at a place that no pair is for. -/
theorem at?_ofPairs_eq_none_iff {pairs : List (String × String)} {place : Place} :
    (ofPairs pairs).at? place = none ↔ ∀ p ∈ pairs, placeOf p.1 ≠ place := by
  induction pairs with
  | nil => simp
  | cons p pairs ih =>
      rw [at?_ofPairs_cons, Option.or_eq_none_iff, ih, List.forall_mem_cons]
      by_cases hplace : placeOf p.1 = place <;> simp [hplace]

/-- A pair stands last in a list among those for its place. -/
def IsLast (pairs : List (String × String)) (p : String × String) : Prop :=
  ∃ front back, pairs = front ++ p :: back ∧ ∀ p' ∈ back, placeOf p'.1 ≠ placeOf p.1

/-- **A query holds at a place what the last pair for it puts there.** -/
theorem at?_ofPairs_eq_some_iff {pairs : List (String × String)} {place : Place}
    {e : Descriptor ⊕ String} :
    (ofPairs pairs).at? place = some e ↔
      ∃ p, IsLast pairs p ∧ placeOf p.1 = place ∧ made p = e := by
  constructor
  · intro h
    induction pairs with
    | nil =>
        rw [at?_empty] at h
        cases h
    | cons p pairs ih =>
        rw [at?_ofPairs_cons, Option.or_eq_some_iff] at h
        rcases h with h | ⟨hnone, h⟩
        · obtain ⟨p', ⟨front, back, rfl, hback⟩, hplace⟩ := ih h
          exact ⟨p', ⟨p :: front, back, rfl, hback⟩, hplace⟩
        · by_cases hplace : placeOf p.1 = place
          · rw [if_pos hplace] at h
            refine ⟨p, ⟨[], pairs, rfl, ?_⟩, hplace, Option.some.inj h⟩
            rw [hplace]
            exact at?_ofPairs_eq_none_iff.1 hnone
          · rw [if_neg hplace] at h
            cases h
  · rintro ⟨p, ⟨front, back, rfl, hback⟩, rfl, rfl⟩
    rw [at?_ofPairs_append, at?_ofPairs_cons, at?_ofPairs_eq_none_iff.2 hback]
    simp

/-- The last pair for a place, by where it stands. -/
theorem isLast_iff {pairs : List (String × String)} {p : String × String} :
    IsLast pairs p ↔ ∃ i : Fin pairs.length, pairs.get i = p ∧
      ∀ j, i < j → placeOf (pairs.get j).1 ≠ placeOf p.1 := by
  constructor
  · rintro ⟨front, back, rfl, hback⟩
    refine ⟨⟨front.length, by simp⟩, by simp, fun j hj => hback _ ?_⟩
    have hlt : front.length < j.val := hj
    obtain ⟨k, hk⟩ := Nat.exists_eq_add_of_lt hlt
    have hget : back[k]? = some ((front ++ p :: back).get j) := by
      rw [List.get_eq_getElem, ← List.getElem?_eq_getElem j.isLt, hk,
        List.getElem?_append_right (by omega)]
      simp [Nat.add_assoc]
    exact List.mem_of_getElem? hget
  · rintro ⟨i, rfl, hlast⟩
    refine ⟨pairs.take i, pairs.drop (i + 1), ?_, fun p' hp' => ?_⟩
    · rw [List.get_eq_getElem, ← List.drop_eq_getElem_cons, List.take_append_drop]
    · obtain ⟨k, hk, rfl⟩ := List.getElem_of_mem hp'
      rw [List.getElem_drop]
      rw [List.length_drop] at hk
      refine hlast ⟨i + 1 + k, by omega⟩ ?_
      exact Nat.lt_of_lt_of_le (Nat.lt_succ_self i) (Nat.le_add_right _ _)

/-- **Pairs that keep their order at each place can be rearranged.** -/
theorem ofPairs_eq_of_rearranged {pairs pairs' : List (String × String)}
    (σ : Fin pairs.length ≃ Fin pairs'.length) (hget : ∀ i, pairs'.get (σ i) = pairs.get i)
    (horder : ∀ i j, i < j → placeOf (pairs.get i).1 = placeOf (pairs.get j).1 → σ i < σ j) :
    ofPairs pairs' = ofPairs pairs := by
  have hlast : ∀ p, IsLast pairs' p ↔ IsLast pairs p := by
    intro p
    rw [isLast_iff, isLast_iff]
    constructor
    · rintro ⟨i', rfl, hlast⟩
      obtain ⟨i, rfl⟩ := σ.surjective i'
      refine ⟨i, (hget i).symm, fun j hj hplace => ?_⟩
      rw [hget] at hplace
      refine hlast (σ j) (horder i j hj hplace.symm) ?_
      rw [hget, hget, hplace]
    · rintro ⟨i, rfl, hlast⟩
      refine ⟨σ i, hget i, fun j' hj' hplace => ?_⟩
      obtain ⟨j, rfl⟩ := σ.surjective j'
      rw [hget] at hplace
      -- the other one stands in front, and so it does after the rearrangement
      rcases Nat.lt_trichotomy i j with hlt | heq | hgt
      · exact hlast j hlt hplace
      · rw [Fin.ext heq] at hj'
        exact absurd hj' (Nat.lt_irrefl _)
      · exact absurd hj' (Nat.lt_asymm (horder j i hgt hplace))
  refine ext_at? fun place => Option.ext fun e => ?_
  simp only [at?_ofPairs_eq_some_iff, hlast]

/-- **A pair in front of a later one for its place changes nothing.** -/
theorem ofPairs_insert_of_later {front middle back : List (String × String)}
    {p q : String × String} (h : placeOf p.1 = placeOf q.1) :
    ofPairs (front ++ p :: (middle ++ q :: back)) = ofPairs (front ++ (middle ++ q :: back)) := by
  refine ext_at? fun place => ?_
  rw [at?_ofPairs_append, at?_ofPairs_append, at?_ofPairs_cons, Option.or_assoc]
  by_cases hplace : placeOf p.1 = place
  · -- the later pair goes first
    have hsome : ((ofPairs (middle ++ q :: back)).at? place).isSome = true := by
      rw [Option.isSome_iff_ne_none, ne_eq, at?_ofPairs_eq_none_iff]
      intro hnone
      exact hnone q (by simp) (h ▸ hplace)
    obtain ⟨e, he⟩ := Option.isSome_iff_exists.1 hsome
    rw [he, Option.some_or, Option.some_or]
  · rw [if_neg hplace, Option.none_or]

/-! ### Filters and parameters -/

theorem placeOf_eq_filter_iff {key name : String} :
    placeOf key = .filter name ↔ ∃ token, Target.ofKey key = .filter name token := by
  unfold placeOf
  cases Target.ofKey key <;> simp

/-- Only a key that asks for no filter is a parameter, and of its own name. -/
theorem placeOf_eq_param_iff {key name : String} :
    placeOf key = .param name ↔ key = name ∧ Target.ofKey key = .param key := by
  unfold placeOf
  cases hkey : Target.ofKey key with
  | filter name token => simp
  | param key' =>
      obtain rfl := eq_of_ofKey_eq_param hkey
      simp

theorem get?_filters_iff {pairs : List (String × String)} {name : String} {d : Descriptor} :
    (ofPairs pairs).filters.get? name = some d ↔
      ∃ p token, IsLast pairs p ∧ Target.ofKey p.1 = .filter name token ∧
        .ofToken token p.2 = d := by
  have hat : (ofPairs pairs).filters.get? name = some d ↔
      (ofPairs pairs).at? (.filter name) = some (.inl d) := by
    simp [at?]
  rw [hat, at?_ofPairs_eq_some_iff]
  constructor
  · rintro ⟨p, hlast, hplace, hmade⟩
    obtain ⟨token, hkey⟩ := placeOf_eq_filter_iff.1 hplace
    rw [made, hkey] at hmade
    exact ⟨p, token, hlast, hkey, Sum.inl.inj hmade⟩
  · rintro ⟨p, token, hlast, hkey, rfl⟩
    exact ⟨p, hlast, placeOf_eq_filter_iff.2 ⟨token, hkey⟩, by rw [made, hkey]⟩

theorem get?_params_iff {pairs : List (String × String)} {key value : String} :
    (ofPairs pairs).params.get? key = some value ↔
      IsLast pairs (key, value) ∧ Target.ofKey key = .param key := by
  have hat : (ofPairs pairs).params.get? key = some value ↔
      (ofPairs pairs).at? (.param key) = some (.inr value) := by
    simp [at?]
  rw [hat, at?_ofPairs_eq_some_iff]
  constructor
  · rintro ⟨⟨key', value'⟩, hlast, hplace, hmade⟩
    obtain ⟨rfl, hkey⟩ := placeOf_eq_param_iff.1 hplace
    rw [made, hkey] at hmade
    obtain rfl := Sum.inr.inj hmade
    exact ⟨hlast, hkey⟩
  · rintro ⟨hlast, hkey⟩
    exact ⟨_, hlast, placeOf_eq_param_iff.2 ⟨rfl, hkey⟩, by rw [made, hkey]⟩

theorem isSome_at?_ofPairs_iff {pairs : List (String × String)} {place : Place} :
    ((ofPairs pairs).at? place).isSome = true ↔ ∃ p ∈ pairs, placeOf p.1 = place := by
  rw [Option.isSome_iff_ne_none, ne_eq, at?_ofPairs_eq_none_iff]
  simp

theorem contains_filters_iff {pairs : List (String × String)} {name : String} :
    (ofPairs pairs).filters.contains name = true ↔ ∃ p ∈ pairs, placeOf p.1 = .filter name := by
  rw [← isSome_at?_ofPairs_iff, at?, Option.isSome_map]
  rfl

theorem contains_params_iff {pairs : List (String × String)} {key : String} :
    (ofPairs pairs).params.contains key = true ↔
      Target.ofKey key = .param key ∧ key ∈ pairs.map Prod.fst := by
  have hsome : (ofPairs pairs).params.contains key = true ↔
      ∃ p ∈ pairs, placeOf p.1 = .param key := by
    rw [← isSome_at?_ofPairs_iff, at?, Option.isSome_map]
    rfl
  rw [hsome]
  constructor
  · rintro ⟨p, hp, hplace⟩
    obtain ⟨rfl, hkey⟩ := placeOf_eq_param_iff.1 hplace
    exact ⟨hkey, List.mem_map_of_mem hp⟩
  · rintro ⟨hkey, hmem⟩
    obtain ⟨p, hp, rfl⟩ := List.mem_map.1 hmem
    exact ⟨p, hp, placeOf_eq_param_iff.2 ⟨rfl, hkey⟩⟩

/-- **Of the pairs for one place of a query the last counts, and no other order matters.**  There is
a filter on a name just if a key asks for one, and it is what the last such pair makes it; a key
that asks for no filter is a parameter with its last value.  A pair makes no difference anywhere
else.  So pairs can be rearranged as long as those for each place keep their order, and a pair in
front of a later one for its place makes no difference at all. -/
theorem lastPairs_count (pairs : List (String × String)) :
    (∀ name, ((ofPairs pairs).filters.contains name = true ↔
        ∃ p ∈ pairs, placeOf p.1 = .filter name) ∧
      ∀ d, (ofPairs pairs).filters.get? name = some d ↔
        ∃ p token, IsLast pairs p ∧ Target.ofKey p.1 = .filter name token ∧
          .ofToken token p.2 = d) ∧
    (∀ key, ((ofPairs pairs).params.contains key = true ↔
        Target.ofKey key = .param key ∧ key ∈ pairs.map Prod.fst) ∧
      ∀ value, (ofPairs pairs).params.get? key = some value ↔
        IsLast pairs (key, value) ∧ Target.ofKey key = .param key) ∧
    (∀ front p back, pairs = front ++ p :: back →
      (∀ name, placeOf p.1 ≠ .filter name →
        (ofPairs pairs).filters.get? name = (ofPairs (front ++ back)).filters.get? name) ∧
      ∀ key, placeOf p.1 ≠ .param key →
        (ofPairs pairs).params.get? key = (ofPairs (front ++ back)).params.get? key) ∧
    (∀ (pairs' : List (String × String)) (σ : Fin pairs.length ≃ Fin pairs'.length),
      (∀ i, pairs'.get (σ i) = pairs.get i) →
      (∀ i j, i < j → placeOf (pairs.get i).1 = placeOf (pairs.get j).1 → σ i < σ j) →
        ofPairs pairs' = ofPairs pairs) ∧
    ∀ front p middle q back, pairs = front ++ (middle ++ q :: back) → placeOf p.1 = placeOf q.1 →
      ofPairs (front ++ p :: (middle ++ q :: back)) = ofPairs pairs := by
  refine ⟨fun name => ⟨contains_filters_iff, fun d => get?_filters_iff⟩,
    fun key => ⟨contains_params_iff, fun value => get?_params_iff⟩, ?_, ?_, ?_⟩
  · rintro front p back rfl
    exact ⟨fun name hne => Option.map_injective (fun _ _ => Sum.inl.inj) (at?_ofPairs_of_ne hne),
      fun key hne => Option.map_injective (fun _ _ => Sum.inr.inj) (at?_ofPairs_of_ne hne)⟩
  · intro pairs' σ hget horder
    exact ofPairs_eq_of_rearranged σ hget horder
  · rintro front p middle q back rfl hplace
    exact ofPairs_insert_of_later hplace

/-- Two filters on one name and two numbers of a page: the tokens make no difference to the place,
the last filter counts, and the pairs of the page can be put between those of the filter. -/
theorem lastPairs_count_twoPlaces :
    let pairs := [("filter[a]", "1"), ("page[size]", "5"), ("filter[a][gt]", "2"),
      ("page[size]", "6")]
    let pairs' := [("page[size]", "5"), ("filter[a]", "1"), ("page[size]", "6"),
      ("filter[a][gt]", "2")]
    (IsLast pairs ("filter[a][gt]", "2") ∧
      Target.ofKey "filter[a][gt]" = .filter "a" (some "gt") ∧
      (ofPairs pairs).filters.get? "a" = some (.operator (.builtin .gt) "2")) ∧
    (placeOf "page[size]" ≠ .filter "a" ∧ (ofPairs pairs).filters.get? "a" =
      (ofPairs [("filter[a]", "1"), ("page[size]", "5"), ("filter[a][gt]", "2")]).filters.get?
        "a") ∧
    ((∃ σ : Fin pairs.length ≃ Fin pairs'.length, (∀ i, pairs'.get (σ i) = pairs.get i) ∧
      ∀ i j, i < j → placeOf (pairs.get i).1 = placeOf (pairs.get j).1 → σ i < σ j) ∧
      ofPairs pairs' = ofPairs pairs) ∧
    (placeOf "filter[a][lt]" = placeOf "filter[a][gt]" ∧
      ofPairs (("filter[a][lt]", "0") :: pairs) = ofPairs pairs) := by
  intro pairs pairs'
  obtain ⟨hfilters, -, hothers, hrearranged, hlater⟩ := lastPairs_count pairs
  have hlast : IsLast pairs ("filter[a][gt]", "2") := by
    refine ⟨[("filter[a]", "1"), ("page[size]", "5")], [("page[size]", "6")], rfl, ?_⟩
    decide +kernel
  have hkey : Target.ofKey "filter[a][gt]" = .filter "a" (some "gt") := by decide +kernel
  have hne : placeOf "page[size]" ≠ .filter "a" := by decide +kernel
  have hplace : placeOf "filter[a][lt]" = placeOf "filter[a][gt]" := by decide +kernel
  let exchange : Fin 4 → Fin 4 := [1, 0, 3, 2].get
  have hback : ∀ i, exchange (exchange i) = i := by decide
  let σ : Fin pairs.length ≃ Fin pairs'.length := ⟨exchange, exchange, hback, hback⟩
  have hget : ∀ i, pairs'.get (exchange i) = pairs.get i := by decide +kernel
  have horder : ∀ i j, i < j → placeOf (pairs.get i).1 = placeOf (pairs.get j).1 →
      exchange i < exchange j := by decide +kernel
  refine ⟨⟨hlast, hkey, ((hfilters "a").2 _).2 ⟨_, _, hlast, hkey, rfl⟩⟩, ⟨hne, ?_⟩,
    ⟨⟨σ, hget, horder⟩, hrearranged pairs' σ hget horder⟩, hplace, ?_⟩
  · exact (hothers [("filter[a]", "1"), ("page[size]", "5"), ("filter[a][gt]", "2")]
      ("page[size]", "6") [] rfl).1 "a" hne
  · exact hlater [] ("filter[a][lt]", "0") [("filter[a]", "1"), ("page[size]", "5")]
      ("filter[a][gt]", "2") [("page[size]", "6")] rfl hplace

end Circulation.Query
