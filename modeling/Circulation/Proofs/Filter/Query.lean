/-
**Queries: what the order of pairs does to them.**

Several keys of a request may ask for a filter on one field: `filter[title]`, `filter[title][gt]`,
and so on.  The one that stands last counts.  Who keeps the pairs in a dictionary first gets them
back in the order of their keys, so for him the greatest key stands last.

Main definitions:

* `Query.filterTarget?`, `Query.paramTarget?` — the field or the parameter that a key is aimed at;
* `Query.LastKeyIsGreatest` — of the keys on one field the greatest stands last.

Main results:

* `Query.ofPairs_eq` — a query is two dictionaries of aimed pairs;
* `Query.params_ofPairs_toList` — the parameters do not depend on the order of different keys;
* `Query.ofPairs_toList_ofList` — **a query is the same from pairs and from a dictionary of them**,
  where of the keys on one field the greatest stands last;
* `Query.filters_ofPairs_congr` — **filters depend on no other pair**.
-/

import Circulation.Filter.Query
import Circulation.Proofs.Dict

set_option relaxedAutoImplicit false
set_option autoImplicit false

namespace Circulation.Query

/-! ### What keys are aimed at -/

/-- The field that a key is aimed at, and the filter that it makes of its value. -/
def filterTarget? (key : String) : Option (String × (String → Filter.Descriptor)) :=
  match Filter.Target.ofKey key with
  | .filter name token => some (name, .ofToken token)
  | .param _ => none

/-- The parameter that a key is aimed at; its value stays as it is. -/
def paramTarget? (key : String) : Option (String × (String → String)) :=
  match Filter.Target.ofKey key with
  | .filter .. => none
  | .param key => some (key, id)

/-- A key that asks for no filter is a parameter of its own name. -/
theorem eq_of_ofKey_eq_param {key name : String} (h : Filter.Target.ofKey key = .param name) :
    name = key := by
  unfold Filter.Target.ofKey at h
  split at h
  · exact (Filter.Target.param.inj h).symm
  · cases h

/-- **A query is made of two dictionaries**: of the pairs that ask for filters, and of all other
ones. -/
theorem ofPairs_eq (pairs : List (String × String)) :
    ofPairs pairs = ⟨.ofList (pairs.filterMap (Dict.aim? filterTarget?)),
      .ofList (pairs.filterMap (Dict.aim? paramTarget?))⟩ := by
  -- from any query on, each pair goes into one of the two dictionaries
  have hall : ∀ q : Query, pairs.foldl (fun q p => q.insert p.1 p.2) q =
      ⟨q.filters.insertAll (pairs.filterMap (Dict.aim? filterTarget?)),
        q.params.insertAll (pairs.filterMap (Dict.aim? paramTarget?))⟩ := by
    induction pairs with
    | nil => intro q; rfl
    | cons p pairs ih =>
        intro q
        rw [List.foldl_cons, ih, insert]
        cases hkey : Filter.Target.ofKey p.1 with
        | filter name token =>
            have hfilter : Dict.aim? filterTarget? p = some (name, .ofToken token p.2) := by
              simp only [Dict.aim?, filterTarget?, hkey, Option.map_some]
            have hparam : Dict.aim? paramTarget? p = none := by
              simp only [Dict.aim?, paramTarget?, hkey, Option.map_none]
            rw [List.filterMap_cons_some hfilter, List.filterMap_cons_none hparam]
            rfl
        | param name =>
            have hfilter : Dict.aim? filterTarget? p = none := by
              simp only [Dict.aim?, filterTarget?, hkey, Option.map_none]
            have hparam : Dict.aim? paramTarget? p = some (name, p.2) := by
              simp only [Dict.aim?, paramTarget?, hkey, Option.map_some, id]
            rw [List.filterMap_cons_none hfilter, List.filterMap_cons_some hparam]
            rfl
  exact hall empty

/-! ### The order of pairs -/

/-- Of the keys that are aimed at one field, none is greater than the last one. -/
def LastKeyIsGreatest (pairs : List (String × String)) : Prop :=
  Dict.LastIsGreatest filterTarget? (pairs.map Prod.fst)

instance (pairs : List (String × String)) : Decidable (LastKeyIsGreatest pairs) :=
  inferInstanceAs (Decidable (Dict.LastIsGreatest filterTarget? (pairs.map Prod.fst)))

/-- A parameter has one key, so the last one is the greatest. -/
theorem lastIsGreatest_paramTarget? (keys : List String) :
    Dict.LastIsGreatest paramTarget? keys := by
  have hname : ∀ (key : String) (t : String × (String → String)), paramTarget? key = some t →
      t.1 = key := by
    intro key t h
    unfold paramTarget? at h
    split at h
    · cases h
    · next hkey =>
        obtain rfl := Option.some.inj h
        exact eq_of_ofKey_eq_param hkey
  intro k hk t ht last hlast
  have hsome := List.find?_some (Option.mem_def.1 hlast)
  rw [Option.any_eq_true] at hsome
  obtain ⟨u, hu, heq⟩ := hsome
  have hlast : last = k := by
    rw [← hname last u hu, ← hname k t (Option.mem_def.1 ht)]
    simpa using heq
  exact hlast ▸ String.le_refl k

/-- **Parameters do not depend on the order of different keys.** -/
theorem params_ofPairs_toList (pairs : List (String × String)) :
    (ofPairs (Dict.ofList pairs).toList).params = (ofPairs pairs).params := by
  rw [ofPairs_eq, ofPairs_eq]
  exact Dict.ofList_filterMap_aim? (lastIsGreatest_paramTarget? _)

/-- **Pairs and a dictionary of them make one query**, where of the keys on one field the greatest
stands last. -/
theorem ofPairs_toList_ofList {pairs : List (String × String)} (h : LastKeyIsGreatest pairs) :
    ofPairs (Dict.ofList pairs).toList = ofPairs pairs := by
  have hparams := params_ofPairs_toList pairs
  rw [ofPairs_eq, ofPairs_eq] at hparams ⊢
  rw [Dict.ofList_filterMap_aim? h]
  exact congrArg (Query.mk _) hparams

/-! ### Pairs that are a dictionary already -/

/-- A key that asks for no filter keeps its value as a parameter. -/
theorem get?_params_ofPairs (d : Dict String) {key : String}
    (h : Filter.Target.ofKey key = .param key) :
    (ofPairs d.toList).params.get? key = d.get? key := by
  have hsome : (paramTarget? key).isSome = true := by
    simp only [paramTarget?, h, Option.isSome_some]
  -- the parameters are the entries whose keys ask for no filter
  have haim : Dict.aim? paramTarget? =
      Option.guard fun e : String × String => (paramTarget? e.1).isSome := by
    funext e
    cases hkey : Filter.Target.ofKey e.1 with
    | filter name token => simp [Dict.aim?, paramTarget?, Option.guard, hkey]
    | param name =>
        obtain rfl := eq_of_ofKey_eq_param hkey
        simp [Dict.aim?, paramTarget?, Option.guard, hkey]
  have hparams : (ofPairs d.toList).params = d.filter fun k _ => (paramTarget? k).isSome := by
    rw [ofPairs_eq, haim, List.filterMap_eq_filter]
    exact Dict.ofList_toList (d.filter fun k _ => (paramTarget? k).isSome)
  rw [hparams, Dict.get?_filter, if_pos hsome]

/-- **Filters depend on the keys that ask for filters**, and on no other pair. -/
theorem filters_ofPairs_congr {d e : Dict String}
    (h : ∀ key, (filterTarget? key).isSome = true → d.get? key = e.get? key) :
    (ofPairs d.toList).filters = (ofPairs e.toList).filters := by
  have haim : Dict.aim? filterTarget? = fun e : String × String =>
      if (filterTarget? e.1).isSome = true then Dict.aim? filterTarget? e else none := by
    funext e
    cases hkey : filterTarget? e.1 <;> simp [Dict.aim?, hkey]
  have hfilters : ∀ d : Dict String, (ofPairs d.toList).filters =
      .ofList ((d.filter fun k _ => (filterTarget? k).isSome).toList.filterMap
        (Dict.aim? filterTarget?)) := by
    intro d
    rw [ofPairs_eq, Dict.filter, List.filterMap_filter, ← haim]
  rw [hfilters, hfilters, Dict.filter_congr h]

end Circulation.Query
