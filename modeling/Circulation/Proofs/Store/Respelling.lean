/-
**Which attributes of a client reach the store.**

A client may spell the name of a column in several ways, and a record may hold two of them at once.
Nothing is refused for that: of the keys that denote one column the greatest counts, and creations
and updates run as if the others had not been sent.  Keys in the spelling of the wire denote
different columns, so a record of such keys loses nothing.

Main definitions:

* `Record.counted` — the entries of a record that no greater key of the same column overwrites;
* `Carries`, `Schema.Takes` — the parameter of a column is the value of an attribute, and this for
  all attributes that count and are left to the client.

Main results:

* `Record.toStorage_counted` — the other entries make no difference in storage;
* `Record.get?_toStorage_iff` — what stands in storage are the values that count;
* `Record.counted_eq_self_iff` — every entry counts exactly when no two keys denote one column;
* `Schema.takes_of_writeBack`, `Schema.takes_of_creation` — the statements take the attributes;
* `Repository.update_counted`, `Repository.create_counted` — the operations see no more of them
  than what counts;
* `Repository.attributes_bound` — **every attribute that counts is bound to its column**.
-/

import Circulation.Proofs.Store.Creation
import Circulation.Proofs.Store.WriteBack

set_option relaxedAutoImplicit false
set_option autoImplicit false

namespace Circulation

/-! ### Entries that count -/

namespace Record

/-- The entries of a record that count: no greater key denotes the same column. -/
def counted (r : Record) : Record :=
  r.filter fun key _ =>
    r.keys.all fun key' => decide (toStorageCasing key' = toStorageCasing key → key' ≤ key)

theorem get?_counted_iff {r : Record} {key : String} {v : Json} :
    r.counted.get? key = some v ↔ r.get? key = some v ∧
      ∀ key' ∈ r.keys, toStorageCasing key' = toStorageCasing key → key' ≤ key := by
  rw [counted, Dict.get?_filter]
  by_cases h : ∀ key' ∈ r.keys, toStorageCasing key' = toStorageCasing key → key' ≤ key
  · rw [if_pos (List.all_eq_true.2 fun key' hkey' => decide_eq_true (h key' hkey'))]
    exact (and_iff_left h).symm
  · rw [if_neg fun hall => h fun key' hkey' => of_decide_eq_true (List.all_eq_true.1 hall _ hkey')]
    simp [h]

/-- A key that counts is one of the record. -/
theorem mem_keys_of_counted {r : Record} {key : String} (h : key ∈ r.counted.keys) :
    key ∈ r.keys ∧ ∀ key' ∈ r.keys, toStorageCasing key' = toStorageCasing key → key' ≤ key := by
  obtain ⟨v, hv⟩ := Option.isSome_iff_exists.1 (Dict.contains_iff_mem_keys.2 h)
  obtain ⟨hget, hgreatest⟩ := get?_counted_iff.1 hv
  exact ⟨Dict.contains_iff_mem_keys.1 (Dict.contains_of_get?_eq_some hget), hgreatest⟩

/-- **Two keys that count denote different columns.** -/
theorem eq_of_mem_keys_counted {r : Record} {key key' : String} (h : key ∈ r.counted.keys)
    (h' : key' ∈ r.counted.keys) (heq : toStorageCasing key = toStorageCasing key') :
    key = key' := by
  obtain ⟨hmem, hgreatest⟩ := mem_keys_of_counted h
  obtain ⟨hmem', hgreatest'⟩ := mem_keys_of_counted h'
  exact String.le_antisymm (hgreatest' key hmem heq) (hgreatest key' hmem' heq.symm)

/-- **What stands in storage are the values that count**, each under the name of its column. -/
theorem get?_toStorage_iff {r : Record} {name : String} {v : Json} :
    (toStorage r).get? name = some v ↔
      ∃ key, toStorageCasing key = name ∧ r.counted.get? key = some v := by
  rw [toStorage, Dict.get?_mapKeys_iff]
  constructor
  · rintro ⟨key, rfl, hget, hgreatest⟩
    exact ⟨key, rfl, get?_counted_iff.2 ⟨hget, hgreatest⟩⟩
  · rintro ⟨key, rfl, h⟩
    exact ⟨key, rfl, get?_counted_iff.1 h⟩

/-- **Entries that do not count make no difference in storage.** -/
theorem toStorage_counted (r : Record) : toStorage r.counted = toStorage r := by
  refine Dict.ext_get? fun name => Option.ext fun v => ?_
  have hcounted : (toStorage r.counted).get? name = some v ↔
      ∃ key, toStorageCasing key = name ∧ r.counted.get? key = some v :=
    Dict.get?_mapKeys_eq_some_iff fun _ ha _ hb => eq_of_mem_keys_counted ha hb
  rw [hcounted, get?_toStorage_iff]

/-- **Every entry counts exactly when no two keys denote the same column.** -/
theorem counted_eq_self_iff {r : Record} :
    r.counted = r ↔ ∀ key ∈ r.keys, ∀ key' ∈ r.keys,
      toStorageCasing key = toStorageCasing key' → key = key' := by
  constructor
  · intro h key hkey key' hkey' heq
    rw [← h] at hkey hkey'
    exact eq_of_mem_keys_counted hkey hkey' heq
  · intro h
    refine Dict.ext_get? fun key => Option.ext fun v => ?_
    rw [get?_counted_iff]
    refine and_iff_left_of_imp fun hget key' hkey' heq => ?_
    have hkey := Dict.contains_iff_mem_keys.1 (Dict.contains_of_get?_eq_some hget)
    obtain rfl := h key' hkey' key hkey heq
    exact String.le_refl key'

/-- In the spelling of the wire every entry counts. -/
theorem counted_eq_self {r : Record}
    (h : ∀ key ∈ r.keys, toWireCasing (toStorageCasing key) = key) : r.counted = r := by
  refine counted_eq_self_iff.2 fun key hkey key' hkey' heq => ?_
  rw [← h key hkey, heq, h key' hkey']

end Record

/-! ### Attributes in statements -/

/-- The column of a name gets a value, written the way the column writes it. -/
def Carries (columns : List Column) (params : List Param) (name : String) (v : Json) : Prop :=
  ∃ e ∈ columns.zip params, e.1.name = name ∧ e.1.written v = .ok e.2

/-- Columns that are written take what a client sends: every key denotes a column, each column is
written once, and each value that counts and is left to the client goes to its column. -/
structure Schema.Takes (s : Schema) (attributes : Record) (left : String → Json → Prop)
    (columns : List Column) (params : List Param) : Prop where
  known : ∀ key ∈ attributes.keys, (s.column? (toStorageCasing key)).isSome = true
  nodup : (columns.map Column.name).Nodup
  carries : ∀ key v, attributes.counted.get? key = some v → left (toStorageCasing key) v →
    Carries columns params (toStorageCasing key) v

/-- An update leaves all but the key to the client. -/
def Schema.LeftToUpdate (s : Schema) (name : String) (_ : Json) : Prop := name ≠ s.primaryKey

/-- A creation leaves to the client what is neither the key nor has a value in new rows; a day of
the creation is put in place of null only. -/
def Schema.LeftToCreation (s : Schema) (name : String) (v : Json) : Prop :=
  name ≠ s.primaryKey ∧
    (s.initial? name = none ∨ s.initial? name = some .today ∧ v.isNull = false)

section Statements

variable {s : Schema} {attributes : Record}

/-- Attributes that pass denote columns, key by key. -/
theorem Schema.isSome_column?_of_mem_keys (hs : s ∈ catalogue)
    (hcheck : s.checkAttributes ((Record.toStorage attributes).erase s.primaryKey) = .ok ())
    {key : String} (hkey : key ∈ attributes.keys) :
    (s.column? (toStorageCasing key)).isSome = true :=
  isSome_column?_of_contains hs hcheck (contains_toStorage_iff.2 ⟨key, hkey, rfl⟩)

/-- What writes a row back takes the attributes. -/
theorem Schema.takes_of_writeBack (hs : s ∈ catalogue) {changes : Record}
    (hchanges : s.changes attributes = .ok changes) {key : Param} {row : Record} {st : Statement}
    (h : s.writeBack key row changes = .ok st) :
    ∃ columns params, s.Takes attributes s.LeftToUpdate columns params ∧
      st = assigning s columns params key := by
  obtain ⟨rfl, hcheck⟩ := changes_eq_ok_iff.1 hchanges
  have hcolumns : ∀ name, ((Record.toStorage attributes).erase s.primaryKey).contains name = true →
      (s.column? name).isSome = true := fun name hname =>
    checkAttributes_eq_ok_iff.1 hcheck name (Dict.contains_iff_mem_keys.1 hname)
  obtain ⟨-, params, hparams, rfl⟩ := (writeBack_eq_ok_iff_merged hcolumns key).1 h
  refine ⟨_, params, ⟨fun _ => isSome_column?_of_mem_keys hs hcheck, nodup_map_name_merged hs, ?_⟩,
    rfl⟩
  intro key v hkey hne
  have hget : ((Record.toStorage attributes).erase s.primaryKey).get? (toStorageCasing key) =
      some v := by
    rw [Dict.get?_erase, if_neg (Ne.symm hne)]
    exact Record.get?_toStorage_iff.2 ⟨key, rfl, hkey⟩
  have hmem : toStorageCasing key ∈ (s.merged row _).map Column.name :=
    (mem_map_name_merged_iff hcolumns _).2 ⟨hne, Or.inl (Dict.contains_of_get?_eq_some hget)⟩
  obtain ⟨c, hc, hname⟩ := List.mem_map.1 hmem
  obtain ⟨p, hp, hwritten⟩ := exists_mem_zip hparams hc
  refine ⟨(c, p), hp, hname, ?_⟩
  rwa [mergedValue, hname, hget] at hwritten

/-- A new row takes the attributes. -/
theorem Schema.takes_of_creation (hs : s ∈ catalogue) {day : Date} {st : Statement}
    (h : s.creation day attributes = .ok st) :
    ∃ columns params, s.Takes attributes s.LeftToCreation columns params ∧
      st = inserting s columns params := by
  obtain ⟨columns, params, hrow, rfl⟩ := creation_newRow hs h
  have hcheck := (creation_eq_ok_iff_writable.1 h).1
  refine ⟨columns, params, ⟨fun _ => isSome_column?_of_mem_keys hs hcheck, hrow.nodup, ?_⟩, rfl⟩
  rintro key v hkey ⟨hne, hleft⟩
  have hget : (Record.toStorage attributes).get? (toStorageCasing key) = some v :=
    Record.get?_toStorage_iff.2 ⟨key, rfl, hkey⟩
  obtain ⟨c, hc, hname⟩ := List.mem_map.1
    ((hrow.names _).2 ⟨hne, Or.inl (Dict.contains_of_get?_eq_some hget)⟩)
  obtain ⟨p, hp, hgets⟩ := exists_mem_zip hrow.gets hc
  refine ⟨(c, p), hp, hname, ?_⟩
  rw [Gets, hname] at hgets
  rcases hleft with hnone | ⟨htoday, hnull⟩
  · rw [hnone] at hgets
    obtain ⟨v', hv', hwritten⟩ := hgets
    rw [hget] at hv'
    obtain rfl := Option.some.inj hv'
    exact hwritten
  · have hmissing : (Record.toStorage attributes).isMissing (toStorageCasing key) = false :=
      (Record.isMissing_eq_false_iff _ _).2 ⟨v, hget, hnull⟩
    simp only [htoday, hmissing, Bool.false_eq_true, if_false] at hgets
    rwa [Record.valueOf, hget] at hgets

/-- The only statement of an update that changes anything is the one that writes the row back. -/
theorem UpdateCourse.writeBack_of_command {id : String} {log : List Exchange}
    {a : Answer (Option Record)} (h : UpdateCourse s id attributes log a) {st : Statement}
    (hst : st ∈ statementsOf log) (hkind : st.kind = .command) :
    ∃ key row changes, s.changes attributes = .ok changes ∧
      s.writeBack key row changes = .ok st := by
  rcases h.statements with hnil | ⟨key, changes, -, hchanges, hstatements⟩
  · rw [hnil] at hst
    cases hst
  have hlookup : st ≠ selectById s key := by
    rintro rfl
    cases hkind
  rcases hstatements with hselect | ⟨-, row, update, -, -, hupdate, hfront⟩
  · rw [hselect] at hst
    exact absurd (List.mem_singleton.1 hst) hlookup
  · have hmem := hfront.subset hst
    simp only [List.mem_cons, List.not_mem_nil, or_false, hlookup, false_or] at hmem
    exact ⟨key, row, changes, hchanges, hmem ▸ hupdate⟩

/-- The only statement of a creation is the one that inserts the row. -/
theorem CreateCourse.creation_of_mem {r : Repository} {log : List Exchange} {a : Answer Record}
    (h : CreateCourse r attributes log a) {st : Statement} (hst : st ∈ statementsOf log) :
    r.schema.creation r.today attributes = .ok st := by
  obtain hnil | ⟨insert, hinsert, hstatements⟩ := h.statements
  · rw [hnil] at hst
    cases hst
  · rw [hstatements] at hst
    obtain rfl := List.mem_singleton.1 hst
    exact hinsert

end Statements

/-! ### Creations and updates -/

namespace Repository

variable {r : Repository}

/-- An update sees no more of the attributes than what counts. -/
theorem update_counted (r : Repository) (id : String) (attributes : Record) :
    r.update id attributes.counted = r.update id attributes := by
  have hchanges : r.schema.changes attributes.counted = r.schema.changes attributes := by
    rw [Schema.changes, Schema.changes, Record.toStorage_counted]
  rw [update, update, hchanges]

/-- A creation sees no more of the attributes than what counts. -/
theorem create_counted (r : Repository) (attributes : Record) :
    r.create attributes.counted = r.create attributes := by
  have hcreation : r.schema.creation r.today attributes.counted =
      r.schema.creation r.today attributes := by
    rw [Schema.creation, Schema.creation, Schema.changes, Schema.changes,
      Record.toStorage_counted]
  rw [create, create, hcreation]

/-- **Every attribute that counts is bound to its column.**  Of the keys that denote one column the
greatest counts, and the others make no difference; where all keys denote different columns, as in
the spelling of the wire, every attribute counts. -/
theorem attributes_bound (hs : r.schema ∈ catalogue) (attributes : Record) :
    (attributes.counted = attributes ↔ ∀ key ∈ attributes.keys, ∀ key' ∈ attributes.keys,
      toStorageCasing key = toStorageCasing key' → key = key') ∧
    ((∀ key ∈ attributes.keys, toWireCasing (toStorageCasing key) = key) →
      attributes.counted = attributes) ∧
    (∀ key ∈ attributes.counted.keys, ∀ key' ∈ attributes.counted.keys,
      toStorageCasing key = toStorageCasing key' → key = key') ∧
    (∀ id, r.update id attributes.counted = r.update id attributes) ∧
    r.create attributes.counted = r.create attributes ∧
    ∀ {σ : Type} (b : Backend σ) (store : σ),
      (∀ id, ∀ st ∈ ((r.update id attributes).run b store).statements, st.kind = .command →
        ∃ columns params key, r.schema.Takes attributes r.schema.LeftToUpdate columns params ∧
          st = assigning r.schema columns params key) ∧
      ∀ st ∈ ((r.create attributes).run b store).statements, ∃ columns params,
        r.schema.Takes attributes r.schema.LeftToCreation columns params ∧
          st = inserting r.schema columns params := by
  refine ⟨Record.counted_eq_self_iff, Record.counted_eq_self,
    fun key hkey key' hkey' => Record.eq_of_mem_keys_counted hkey hkey',
    fun id => update_counted r id attributes, create_counted r attributes, ?_⟩
  intro σ b store
  constructor
  · intro id st hst hkind
    rw [Session.statements_run] at hst
    have hcourse := UpdateCourse.of_path (Session.path_run b (r.update id attributes) store)
    obtain ⟨key, row, changes, hchanges, hupdate⟩ := hcourse.writeBack_of_command hst hkind
    obtain ⟨columns, params, htakes, hst⟩ := Schema.takes_of_writeBack hs hchanges hupdate
    exact ⟨columns, params, key, htakes, hst⟩
  · intro st hst
    rw [Session.statements_run] at hst
    have hcourse := CreateCourse.of_path (Session.path_run b (r.create attributes) store)
    exact Schema.takes_of_creation hs (hcourse.creation_of_mem hst)

/-- A book with two titles, both of them under a name of the same column. -/
def twoTitles : Record :=
  .ofList [("Title", .str "Emma"), ("author", .str "Austen"), ("title", .str "Persuasion")]

/-- A store that finds a book and changes one row. -/
def mansfieldPark : Script :=
  ⟨[], [.now (.ofRows [.ofList [("author", .str "austen"), ("title", .str "mansfield park")]]),
    .now (.ofCount 1)], [], []⟩

/-- The update with two titles is not refused: it writes the row, and one of them is bound in no
statement. -/
theorem title_overwritten :
    let run := (update ⟨books, ⟨2024, 5, 17, by decide⟩⟩ "7" twoTitles).run
      (Script.backend (.ofSeconds 5)) mansfieldPark
    twoTitles.keys = ["Title", "author", "title"] ∧
      toStorageCasing "Title" = toStorageCasing "title" ∧
      run.statements.map (fun st => (st.kind, st.params)) =
        [(.query, [.int 7]), (.command, [.text "persuasion", .text "austen", .int 7]),
          (.query, [.int 7])] ∧
      .executed (assigning books [.free "title", .free "author"]
        [.text "persuasion", .text "austen"] (.int 7)) ∈ run.trace ∧ .committed ∈ run.trace := by
  decide +kernel

/-- The title that counts is bound to its column, in the row that is written back and in a new row
alike. -/
theorem attributes_bound_twoTitles :
    let r : Repository := ⟨books, ⟨2024, 5, 17, by decide⟩⟩
    let b := Script.backend (.ofSeconds 5)
    let update := (r.update "7" twoTitles).run b mansfieldPark
    let creation := (r.create twoTitles).run b .empty
    r.schema ∈ catalogue ∧
      twoTitles.counted.keys = ["author", "title"] ∧
      r.update "7" twoTitles.counted = r.update "7" twoTitles ∧
      (∃ st ∈ update.statements, st.kind = .command ∧ ∃ columns params key,
        st = assigning books columns params key ∧
          Carries columns params "title" (.str "Persuasion")) ∧
      ∃ st ∈ creation.statements, ∃ columns params, st = inserting books columns params ∧
        Carries columns params "title" (.str "Persuasion") := by
  intro r b update creation
  have hs : r.schema ∈ catalogue := by simp [r, catalogue]
  have hget : twoTitles.counted.get? "title" = some (.str "Persuasion") :=
    Record.get?_counted_iff.2 ⟨rfl, by decide +kernel⟩
  have htitle : toStorageCasing "title" = "title" := by decide +kernel
  obtain ⟨-, -, -, hupdate, -, hbound⟩ := attributes_bound hs twoTitles
  refine ⟨hs, by decide +kernel, hupdate "7", ?_, ?_⟩
  · have hcommand : ∃ st ∈ update.statements, st.kind = .command := by decide +kernel
    obtain ⟨st, hst, hkind⟩ := hcommand
    obtain ⟨columns, params, key, htakes, heq⟩ := (hbound b mansfieldPark).1 "7" st hst hkind
    have hleft : books.LeftToUpdate (toStorageCasing "title") (.str "Persuasion") := by
      rw [htitle]
      show "title" ≠ "book_id"
      decide
    exact ⟨st, hst, hkind, columns, params, key, heq, htitle ▸ htakes.carries _ _ hget hleft⟩
  · have hone : creation.statements.length = 1 := by decide +kernel
    obtain ⟨st, hst⟩ := List.exists_mem_of_length_pos (hone ▸ Nat.one_pos)
    obtain ⟨columns, params, htakes, heq⟩ := (hbound b .empty).2 st hst
    have hleft : books.LeftToCreation (toStorageCasing "title") (.str "Persuasion") := by
      rw [htitle]
      exact ⟨by decide, Or.inl rfl⟩
    exact ⟨st, hst, columns, params, heq, htitle ▸ htakes.carries _ _ hget hleft⟩

end Repository

end Circulation
