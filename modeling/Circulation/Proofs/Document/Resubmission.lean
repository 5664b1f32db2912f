/-
**Who sends the attributes of a resource back as they are changes nothing.**

A document shows a row under the names of the wire, with its key taken out of the attributes.  When
the attributes come back in an update, the names become those of storage again: every column of a
resource is spelled on the wire in a way that is read back, and no two of them alike.  So the
changes are the row itself without its key, and putting them over the row makes no difference.  The
update asks of the store what an update without any changes asks, and comes to the same.

Main definitions:

* `Json.attributes?` — the attributes of a resource in a document;
* `Backend.FindsOnly` — a store on which an identifier is found with one row only.

Main results:

* `Record.toStorage_erase_toWire` — a row comes back from the wire without its key;
* `Record.merge_erase` — a record with a part of itself put over it;
* `Session.run_opening_single_congr` — sessions that go on alike from what they find;
* `Repository.update_resubmitted` — **an update with the attributes of the row that it finds runs
  as one without attributes**, and the attributes are in order.
-/

import Circulation.Proofs.Document.Links
import Circulation.Proofs.Store.SharedRow
import Circulation.Proofs.Store.WriteBack

set_option relaxedAutoImplicit false
set_option autoImplicit false

namespace Circulation

/-! ### Names on the wire and back -/

namespace Schema

variable {s : Schema}

/-- The name of a column on the wire is read back, and the name of the key is one of them. -/
theorem toStorageCasing_toWireCasing (hs : s ∈ catalogue) {name : String}
    (hname : (s.column? name).isSome = true) : toStorageCasing (toWireCasing name) = name := by
  have hall : ∀ s ∈ catalogue, ∀ c ∈ s.columns, toStorageCasing (toWireCasing c.name) = c.name := by
    decide +kernel
  obtain ⟨c, hc, rfl⟩ := isSome_column?_iff.1 hname
  exact hall s hs c hc

/-- Different columns have different names on the wire. -/
theorem toWireCasing_inj (hs : s ∈ catalogue) {name name' : String}
    (hname : (s.column? name).isSome = true) (hname' : (s.column? name').isSome = true)
    (h : toWireCasing name = toWireCasing name') : name = name' := by
  rw [← toStorageCasing_toWireCasing hs hname, h, toStorageCasing_toWireCasing hs hname']

end Schema

/-! ### Records on the wire and back -/

namespace Record

variable {s : Schema} {row : Record}

/-- What a record shows on the wire when its names are columns. -/
theorem get?_toWire_eq_some_iff (hs : s ∈ catalogue)
    (hrow : ∀ name, row.contains name = true → (s.column? name).isSome = true) {wire : String}
    {v : Json} : (toWire row).get? wire = some v ↔
      ∃ name, toWireCasing name = wire ∧ row.get? name = some v := by
  refine Dict.get?_mapKeys_eq_some_iff ?_
  intro a ha b hb hab
  exact Schema.toWireCasing_inj hs (hrow a (Dict.contains_iff_mem_keys.2 ha))
    (hrow b (Dict.contains_iff_mem_keys.2 hb)) hab

/-- **A row comes back from the wire without its key**, every other column with its value. -/
theorem toStorage_erase_toWire (hs : s ∈ catalogue)
    (hrow : ∀ name, row.contains name = true → (s.column? name).isSome = true) :
    toStorage ((toWire row).erase s.identifier) = row.erase s.primaryKey := by
  have hcolumn : ∀ {name v}, row.get? name = some v → (s.column? name).isSome = true :=
    fun hv => hrow _ (Dict.contains_of_get?_eq_some hv)
  -- the attributes are the row under the names of the wire, but for the key
  have hattributes : ∀ {wire v}, ((toWire row).erase s.identifier).get? wire = some v ↔
      ∃ name, name ≠ s.primaryKey ∧ toWireCasing name = wire ∧ row.get? name = some v := by
    intro wire v
    rw [Dict.get?_erase]
    constructor
    · intro h
      split at h
      · cases h
      · next hne =>
          obtain ⟨name, rfl, hv⟩ := (get?_toWire_eq_some_iff hs hrow).1 h
          refine ⟨name, ?_, rfl, hv⟩
          rintro rfl
          exact hne rfl
    · rintro ⟨name, hname, rfl, hv⟩
      have hne : s.identifier ≠ toWireCasing name := by
        intro heq
        exact hname (Schema.toWireCasing_inj hs (hcolumn hv)
          (Schema.isSome_column?_primaryKey hs) heq.symm)
      rw [if_neg hne]
      exact (get?_toWire_eq_some_iff hs hrow).2 ⟨name, rfl, hv⟩
  -- no two of their names become one in storage, since each of them is read back
  have hback : ∀ wire ∈ ((toWire row).erase s.identifier).keys,
      ∃ name, toWireCasing name = wire ∧ toStorageCasing wire = name := by
    intro wire hwire
    obtain ⟨v, hv⟩ := Option.isSome_iff_exists.1 (Dict.contains_iff_mem_keys.2 hwire)
    obtain ⟨name, -, rfl, hvalue⟩ := hattributes.1 hv
    exact ⟨name, rfl, Schema.toStorageCasing_toWireCasing hs (hcolumn hvalue)⟩
  have hinj : ∀ a ∈ ((toWire row).erase s.identifier).keys,
      ∀ b ∈ ((toWire row).erase s.identifier).keys,
        toStorageCasing a = toStorageCasing b → a = b := by
    intro a ha b hb hab
    obtain ⟨name, rfl, hname⟩ := hback a ha
    obtain ⟨name', rfl, hname'⟩ := hback b hb
    rw [← hname, hab, hname']
  refine Dict.ext_get? fun name => Option.ext fun v => ?_
  rw [toStorage, Dict.get?_mapKeys_eq_some_iff hinj, Dict.get?_erase]
  constructor
  · rintro ⟨wire, rfl, hv⟩
    obtain ⟨name, hname, rfl, hvalue⟩ := hattributes.1 hv
    rw [Schema.toStorageCasing_toWireCasing hs (hcolumn hvalue), if_neg (Ne.symm hname), hvalue]
  · intro hv
    split at hv
    · cases hv
    · next hname =>
        refine ⟨toWireCasing name, Schema.toStorageCasing_toWireCasing hs (hcolumn hv), ?_⟩
        exact hattributes.2 ⟨name, Ne.symm hname, rfl, hv⟩

/-- A record with a part of itself put over it is the record. -/
theorem merge_erase (r : Record) (name : String) : merge r (r.erase name) = r := by
  refine Dict.ext_get? fun name' => ?_
  rw [merge, Dict.get?_union, Dict.get?_erase]
  split
  · exact Option.none_or
  · exact Option.or_self

theorem merge_empty (r : Record) : merge r .empty = r := rfl

end Record

/-! ### The attributes of a document -/

/-- The attributes of a resource in a document. -/
def Json.attributes? (resource : Json) : Option Record :=
  (resource.field? "attributes").bind Json.fields?

/-- A resource shows what its record holds, but for the identifier. -/
theorem Service.attributes?_resource (s : Service) (r : Record) :
    (s.resource r).attributes? = some (r.erase s.schema.identifier) := by
  have hfield : (s.resource r).field? "attributes" =
      some (.ofDict (r.erase s.schema.identifier)) := by
    rw [resource, Json.field?_object]
    rfl
  rw [Json.attributes?, hfield, Option.bind_some, Json.ofDict, Json.fields?, Dict.ofList_toList]

/-! ### What changes nothing -/

namespace Schema

variable {s : Schema} {row : Record}

/-- The changes of a row by its own attributes. -/
theorem changes_attributes (hs : s ∈ catalogue)
    (hrow : ∀ name, row.contains name = true → (s.column? name).isSome = true) :
    s.changes ((Record.toWire row).erase s.identifier) = .ok (row.erase s.primaryKey) := by
  refine changes_eq_ok_iff.2 ⟨?_, ?_⟩
  · rw [Record.toStorage_erase_toWire hs hrow]
    -- the key is taken out already
    refine Dict.ext_get? fun name => ?_
    simp only [Dict.get?_erase]
    split
    · rfl
    · rfl
  · refine checkAttributes_eq_ok_iff.2 ?_
    intro name hname
    have hcontains := Dict.contains_iff_mem_keys.2 hname
    rw [Dict.contains_erase, Bool.and_eq_true] at hcontains
    exact hrow name hcontains.2

theorem changes_empty (s : Schema) : s.changes .empty = .ok .empty := rfl

theorem known_eq_self (hrow : ∀ name, row.contains name = true → (s.column? name).isSome = true) :
    s.known row = row := by
  refine Dict.ext_get? fun name => ?_
  rw [known, Dict.get?_filter]
  split
  · rfl
  · next hname =>
      -- what is no column is not in the row
      cases hget : row.get? name with
      | none => rfl
      | some v => exact absurd (hrow name (Dict.contains_of_get?_eq_some hget)) hname

/-- **Writing a row back with its own columns put over it writes the row back.** -/
theorem writeBack_erase (hrow : ∀ name, row.contains name = true → (s.column? name).isSome = true)
    (key : Param) : s.writeBack key row (row.erase s.primaryKey) = s.writeBack key row .empty := by
  have hmerge : Record.merge (s.known row) (row.erase s.primaryKey) =
      Record.merge (s.known row) .empty := by
    rw [known_eq_self hrow, Record.merge_erase, Record.merge_empty]
  rw [writeBack, hmerge]
  rfl

end Schema

/-! ### Sessions that go on alike -/

/-- Sessions that look for one row and go on alike from whatever they find run alike. -/
theorem Session.run_opening_single_congr {α σ : Type} {b : Backend σ} {s : Schema}
    {select : Statement} {next next' : Option Record → Session (Answer α) true} {store : σ}
    (hnone : next none = next' none)
    (hsome : ∀ {store' store'' found row}, b.acquire store = (.ok (), store') →
      b.execute select store' = (.ok found, store'') → found.rows = [row] →
        next (some row) = next' (some row)) :
    (opening (single s select next)).run b store =
      (opening (single s select next')).run b store := by
  rcases hacquire : b.acquire store with ⟨answer, store'⟩
  cases answer with
  | error e =>
      unfold opening
      rw [run, run, hacquire]
  | ok u =>
      rw [run_opening hacquire, run_opening hacquire]
      congr 1
      unfold single
      rcases hselect : b.execute select store' with ⟨result, store''⟩
      cases result with
      | error e => rw [run_query_error hselect, run_query_error hselect]
      | ok found =>
          rw [run_query_ok hselect, run_query_ok hselect]
          obtain ⟨rows, affected⟩ := found
          rcases rows with _ | ⟨row, _ | ⟨row', rows⟩⟩
          · simp only [hnone]
          · simp only [hsome hacquire hselect rfl]
          · rfl

/-- A store on which an identifier is found with one row only: looking it up on a new connection
gives this row, or no single row at all. -/
def Backend.FindsOnly {σ : Type} (b : Backend σ) (s : Schema) (id : String) (row : Record)
    (store : σ) : Prop :=
  ∀ {key : Param} {store' store'' : σ} {found : Outcome} {row' : Record},
    s.readId id = .ok key → b.acquire store = (.ok (), store') →
      b.execute (selectById s key) store' = (.ok found, store'') → found.rows = [row'] → row' = row

/-- **An update with the attributes of the row that it finds runs as one without attributes.**  The
attributes are those of the document that shows the row, and each of them is a column; the store is
asked the same statements with the same parameters, and the answer is the same, be it a failure or
the row. -/
theorem Repository.update_resubmitted {σ : Type} {r : Repository} (hs : r.schema ∈ catalogue)
    {row : Record}
    (hrow : ∀ name, row.contains name = true → (r.schema.column? name).isSome = true)
    (base : String) :
    ∃ attributes changes, (Service.resource ⟨r.schema, base⟩ (Record.toWire row)).attributes? =
        some attributes ∧
      r.schema.changes attributes = .ok changes ∧
      (∀ key, r.schema.writeBack key row changes = r.schema.writeBack key row .empty) ∧
      ∀ (b : Backend σ) (id : String) (store : σ), b.FindsOnly r.schema id row store →
        (r.update id attributes).run b store = (r.update id .empty).run b store := by
  have hchanges := Schema.changes_attributes hs hrow
  have hwriteBack := Schema.writeBack_erase hrow
  refine ⟨_, _, Service.attributes?_resource _ _, hchanges, hwriteBack, ?_⟩
  intro b id store hfinds
  unfold update
  cases hkey : r.schema.readId id with
  | error why => rfl
  | ok key =>
      simp only [hchanges, Schema.changes_empty]
      refine Session.run_opening_single_congr rfl ?_
      intro store' store'' found row' hacquire hselect hrows
      obtain rfl := hfinds hkey hacquire hselect hrows
      simp only [hwriteBack]

/-- A loan without a day of return, whose state is not spelled the way its column writes it. -/
def openLoan : Record :=
  .ofList [("book_id", .ofInt 7), ("borrow_id", .ofInt 3), ("due_date", .str "05-JAN-24"),
    ("member_id", .ofInt 9), ("return_date", .null), ("status", .str "Ongoing")]

/-- A store that finds the loan and changes one row. -/
def loanFound : Script :=
  ⟨[], [.now (.ofRows [openLoan]), .now (.ofCount 1), .now (.ofRows [openLoan])], [], []⟩

/-- The loan comes back without its own number, but with that of the book: the whole row is written
in the order of the schema, the day and the state in the spelling of their columns, just as it is
without any attributes. -/
theorem Repository.update_resubmitted_openLoan :
    let r : Repository := ⟨borrows, ⟨2024, 5, 17, by decide⟩⟩
    let b := Script.backend (.ofSeconds 5)
    (openLoan.keys.all fun name => (borrows.column? name).isSome) = true ∧
    b.FindsOnly borrows "3" openLoan loanFound ∧
    ((r.update "3" .empty).run b loanFound).statements.map Statement.params =
      [[.int 3],
        [.int 7, .int 9, .date ⟨2024, 1, 5, by decide⟩, .null .date, .text "ongoing", .int 3],
        [.int 3]] ∧
    ∃ attributes changes, (Service.resource ⟨borrows, "http://localhost"⟩
        (Record.toWire openLoan)).attributes? = some attributes ∧
      borrows.changes attributes = .ok changes ∧
      (∀ key, borrows.writeBack key openLoan changes = borrows.writeBack key openLoan .empty) ∧
      (r.update "3" attributes).run b loanFound = (r.update "3" .empty).run b loanFound := by
  intro r b
  have hall : (openLoan.keys.all fun name => (borrows.column? name).isSome) = true := by
    decide +kernel
  have hfinds : b.FindsOnly borrows "3" openLoan loanFound := by
    intro key store' store'' found row' _ hacquire hselect hrows
    -- the script grants the connection and answers the first statement with the loan
    obtain rfl : ({ loanFound with acquire := [] } : Script) = store' := congrArg Prod.snd hacquire
    have hfound : (Except.ok (.ofRows [openLoan]) : Except StoreError Outcome) = .ok found :=
      congrArg Prod.fst hselect
    injection hfound with hfound
    subst hfound
    exact (List.singleton_injective hrows).symm
  refine ⟨hall, hfinds, by decide +kernel, ?_⟩
  obtain ⟨attributes, changes, hattributes, hchanges, hwriteBack, hrun⟩ :=
    Repository.update_resubmitted (r := r) (by decide)
      (fun name hname => List.all_eq_true.1 hall name (Dict.contains_iff_mem_keys.1 hname))
      "http://localhost"
  exact ⟨attributes, changes, hattributes, hchanges, hwriteBack,
    hrun b "3" loanFound hfinds⟩

end Circulation
