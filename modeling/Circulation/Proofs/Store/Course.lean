/-
**The courses of the four operations, one by one.**

An operation on a resource can only go wrong at certain points, and what it has asked of the store
by then is the same each time.  For each operation the courses are listed here: the log, the answer,
and what is known when the operation takes this course.  Whatever is claimed about all runs of an
operation is a matter of going through its list.

Main definitions:

* `Operation`, `Operation.session` — the four operations as one type;
* `GetCourse`, `ListCourse`, `CreateCourse`, `UpdateCourse` — the courses of each.

Main results:

* `GetCourse.of_path`, `ListCourse.of_path`, `CreateCourse.of_path`, `UpdateCourse.of_path` — **an
  operation takes no other course**.
-/

import Circulation.Proofs.Store.Path

set_option relaxedAutoImplicit false
set_option autoImplicit false

namespace Circulation

/-! ### Operations -/

/-- What can be asked of a resource. -/
inductive Operation where
  | list (q : Query)
  | get (id : String)
  | update (id : String) (attributes : Record)
  | create (attributes : Record)

namespace Operation

/-- What an operation gives when nothing goes wrong. -/
abbrev Result : Operation → Type
  | list _ => PageOf Record
  | get _ => Option Record
  | update _ _ => Option Record
  | create _ => Record

/-- The session of an operation. -/
def session (r : Repository) : (op : Operation) → Session (Answer op.Result) false
  | list q => r.list q
  | get id => r.get id
  | update id attributes => r.update id attributes
  | create attributes => r.create attributes

end Operation

open Session

/-! ### Looking up one row -/

/-- The courses of a look-up. -/
inductive GetCourse (s : Schema) (id : String) : List Exchange → Answer (Option Record) → Prop
  | refused {why : Refusal} (h : s.lookup id = .error why) :
      GetCourse s id [] (.error (.validation why))
  | unavailable {select : Statement} (h : s.lookup id = .ok select) (e : StoreError) :
      GetCourse s id [.acquire (.error e)] (.error (.persistence (.unavailable e.message)))
  | failed {select : Statement} (h : s.lookup id = .ok select) (e : StoreError)
      (r : Except StoreError Unit) :
      GetCourse s id [.acquire (.ok ()), .execute select (.error e), .rollback r]
        (.error (.ofStore s e))
  | several {select : Statement} (h : s.lookup id = .ok select) {out : Outcome}
      (rows : 2 ≤ out.rows.length) (r : Except StoreError Unit) :
      GetCourse s id [.acquire (.ok ()), .execute select (.ok out), .rollback r]
        (.error (.consistency s.resource out.rows.length))
  | uncommitted {select : Statement} (h : s.lookup id = .ok select) {out : Outcome}
      {row : Option Record} (rows : out.rows = row.toList) (e : StoreError) :
      GetCourse s id [.acquire (.ok ()), .execute select (.ok out), .commit (.error e)]
        (.error (.ofStore s e))
  | answered {select : Statement} (h : s.lookup id = .ok select) {out : Outcome}
      {row : Option Record} (rows : out.rows = row.toList) :
      GetCourse s id [.acquire (.ok ()), .execute select (.ok out), .commit (.ok ())]
        (.ok (row.map Record.toWire))

/-- **A look-up takes no other course.** -/
theorem GetCourse.of_path {r : Repository} {id : String} {log : List Exchange}
    {a : Answer (Option Record)} (h : Path (r.get id) log a) : GetCourse r.schema id log a := by
  unfold Repository.get at h
  -- the store is asked only if the identifier denotes a key
  split at h
  · next why hwhy =>
      obtain ⟨rfl, rfl⟩ := path_refuse_iff.1 h
      exact GetCourse.refused hwhy
  · next select hselect =>
      replace h := path_opening_iff.1 h
      obtain ⟨e, rfl, rfl⟩ | ⟨rest, rfl, h⟩ := h
      · exact GetCourse.unavailable hselect e
      replace h := path_single_iff.1 h
      obtain ⟨e, x, rfl, rfl⟩ | ⟨out, x, hrows, rfl, rfl⟩ | ⟨row, out, rest, hrows, rfl, h⟩ := h
      · exact GetCourse.failed hselect e x
      · exact GetCourse.several hselect hrows x
      replace h := path_conclude_iff.1 h
      obtain ⟨e, rfl, rfl⟩ | ⟨rest, rfl, h⟩ := h
      · exact GetCourse.uncommitted hselect hrows e
      · obtain ⟨rfl, rfl⟩ := path_done_iff.1 h
        exact GetCourse.answered hselect hrows

/-! ### Listing a page -/

/-- The courses of a list. -/
inductive ListCourse (s : Schema) (q : Query) : List Exchange → Answer (PageOf Record) → Prop
  | refused {why : Refusal} (h : s.plan q = .error why) :
      ListCourse s q [] (.error (.validation why))
  | unavailable {count select : Statement} (h : s.plan q = .ok (count, select)) (e : StoreError) :
      ListCourse s q [.acquire (.error e)] (.error (.persistence (.unavailable e.message)))
  | countFailed {count select : Statement} (h : s.plan q = .ok (count, select)) (e : StoreError)
      (r : Except StoreError Unit) :
      ListCourse s q [.acquire (.ok ()), .execute count (.error e), .rollback r]
        (.error (.ofStore s e))
  | uncounted {count select : Statement} (h : s.plan q = .ok (count, select)) {counted : Outcome}
      (total : totalOf? counted = none) (r : Except StoreError Unit) :
      ListCourse s q [.acquire (.ok ()), .execute count (.ok counted), .rollback r]
        (.error (.persistence .noTotal))
  | failed {count select : Statement} (h : s.plan q = .ok (count, select)) {counted : Outcome}
      {total : Int64} (htotal : totalOf? counted = some total) (e : StoreError)
      (r : Except StoreError Unit) :
      ListCourse s q
        [.acquire (.ok ()), .execute count (.ok counted), .execute select (.error e), .rollback r]
        (.error (.ofStore s e))
  | uncommitted {count select : Statement} (h : s.plan q = .ok (count, select))
      {counted : Outcome} {total : Int64} (htotal : totalOf? counted = some total)
      (found : Outcome) (e : StoreError) :
      ListCourse s q
        [.acquire (.ok ()), .execute count (.ok counted), .execute select (.ok found),
          .commit (.error e)]
        (.error (.ofStore s e))
  | answered {count select : Statement} (h : s.plan q = .ok (count, select)) {counted : Outcome}
      {total : Int64} (htotal : totalOf? counted = some total) (found : Outcome) :
      ListCourse s q
        [.acquire (.ok ()), .execute count (.ok counted), .execute select (.ok found),
          .commit (.ok ())]
        (.ok ⟨found.rows.map Record.toWire, total, q.page⟩)

/-- **A list takes no other course.** -/
theorem ListCourse.of_path {r : Repository} {q : Query} {log : List Exchange}
    {a : Answer (PageOf Record)} (h : Path (r.list q) log a) : ListCourse r.schema q log a := by
  unfold Repository.list at h
  split at h
  · next why hwhy =>
      obtain ⟨rfl, rfl⟩ := path_refuse_iff.1 h
      exact ListCourse.refused hwhy
  · next count select hplan =>
      replace h := path_opening_iff.1 h
      obtain ⟨e, rfl, rfl⟩ | ⟨rest, rfl, h⟩ := h
      · exact ListCourse.unavailable hplan e
      replace h := path_query_iff.1 h
      obtain ⟨e, x, rfl, rfl⟩ | ⟨counted, rest, rfl, h⟩ := h
      · exact ListCourse.countFailed hplan e x
      -- without a total the page is not asked for
      split at h
      · next hnone =>
          obtain ⟨x, rfl, rfl⟩ := path_abandon_iff.1 h
          exact ListCourse.uncounted hplan hnone x
      · next total htotal =>
          replace h := path_query_iff.1 h
          obtain ⟨e, x, rfl, rfl⟩ | ⟨found, rest, rfl, h⟩ := h
          · exact ListCourse.failed hplan htotal e x
          replace h := path_conclude_iff.1 h
          obtain ⟨e, rfl, rfl⟩ | ⟨rest, rfl, h⟩ := h
          · exact ListCourse.uncommitted hplan htotal found e
          · obtain ⟨rfl, rfl⟩ := path_done_iff.1 h
            exact ListCourse.answered hplan htotal found

/-! ### Inserting a row -/

/-- The courses of a creation. -/
inductive CreateCourse (r : Repository) (attributes : Record) :
    List Exchange → Answer Record → Prop
  | refused {why : Refusal} (h : r.schema.creation r.today attributes = .error why) :
      CreateCourse r attributes [] (.error (.validation why))
  | unavailable {insert : Statement} (h : r.schema.creation r.today attributes = .ok insert)
      (e : StoreError) :
      CreateCourse r attributes [.acquire (.error e)]
        (.error (.persistence (.unavailable e.message)))
  | failed {insert : Statement} (h : r.schema.creation r.today attributes = .ok insert)
      (e : StoreError) (x : Except StoreError Unit) :
      CreateCourse r attributes [.acquire (.ok ()), .execute insert (.error e), .rollback x]
        (.error (.ofStore r.schema e))
  | miscounted {insert : Statement} (h : r.schema.creation r.today attributes = .ok insert)
      {out : Outcome} (rows : out.rows.length ≠ 1) (x : Except StoreError Unit) :
      CreateCourse r attributes [.acquire (.ok ()), .execute insert (.ok out), .rollback x]
        (.error (.persistence (.inserted r.schema.resource out.rows.length)))
  | uncommitted {insert : Statement} (h : r.schema.creation r.today attributes = .ok insert)
      {out : Outcome} {row : Record} (rows : out.rows = [row]) (e : StoreError) :
      CreateCourse r attributes
        [.acquire (.ok ()), .execute insert (.ok out), .commit (.error e)]
        (.error (.ofStore r.schema e))
  | answered {insert : Statement} (h : r.schema.creation r.today attributes = .ok insert)
      {out : Outcome} {row : Record} (rows : out.rows = [row]) :
      CreateCourse r attributes
        [.acquire (.ok ()), .execute insert (.ok out), .commit (.ok ())] (.ok row.toWire)

/-- **A creation takes no other course.** -/
theorem CreateCourse.of_path {r : Repository} {attributes : Record} {log : List Exchange}
    {a : Answer Record} (h : Path (r.create attributes) log a) :
    CreateCourse r attributes log a := by
  unfold Repository.create at h
  split at h
  · next why hwhy =>
      obtain ⟨rfl, rfl⟩ := path_refuse_iff.1 h
      exact CreateCourse.refused hwhy
  · next insert hinsert =>
      replace h := path_opening_iff.1 h
      obtain ⟨e, rfl, rfl⟩ | ⟨rest, rfl, h⟩ := h
      · exact CreateCourse.unavailable hinsert e
      replace h := path_query_iff.1 h
      obtain ⟨e, x, rfl, rfl⟩ | ⟨out, rest, rfl, h⟩ := h
      · exact CreateCourse.failed hinsert e x
      -- anything but one row is rolled back
      split at h
      · next row hrow =>
          replace h := path_conclude_iff.1 h
          obtain ⟨e, rfl, rfl⟩ | ⟨rest, rfl, h⟩ := h
          · exact CreateCourse.uncommitted hinsert hrow e
          · obtain ⟨rfl, rfl⟩ := path_done_iff.1 h
            exact CreateCourse.answered hinsert hrow
      · next hrows =>
          obtain ⟨x, rfl, rfl⟩ := path_abandon_iff.1 h
          have hlength : out.rows.length ≠ 1 := by
            intro hone
            obtain ⟨row, hrow⟩ := List.length_eq_one_iff.1 hone
            exact hrows row hrow
          exact CreateCourse.miscounted hinsert hlength x

/-! ### Changing a row -/

/-- What a look-up after a change gives: a row that is gone is a failure of the store. -/
def rereadAnswer (s : Schema) (id : String) : Answer (Option Record) → Answer (Option Record)
  | .ok none => .error (.persistence (.disappeared s.resource id))
  | a => a

theorem reread_eq_map (r : Repository) (id : String) :
    r.reread id = (r.get id).map (rereadAnswer r.schema id) := rfl

/-- The courses of an update.  The last one goes on with a look-up on a connection of its own. -/
inductive UpdateCourse (s : Schema) (id : String) (attributes : Record) :
    List Exchange → Answer (Option Record) → Prop
  | unread {why : Refusal} (h : s.readId id = .error why) :
      UpdateCourse s id attributes [] (.error (.validation why))
  | refused {key : Param} (hkey : s.readId id = .ok key) {why : Refusal}
      (h : s.changes attributes = .error why) :
      UpdateCourse s id attributes [] (.error (.validation why))
  | unavailable {key : Param} (hkey : s.readId id = .ok key) {changes : Record}
      (h : s.changes attributes = .ok changes) (e : StoreError) :
      UpdateCourse s id attributes [.acquire (.error e)]
        (.error (.persistence (.unavailable e.message)))
  | unselected {key : Param} (hkey : s.readId id = .ok key) {changes : Record}
      (h : s.changes attributes = .ok changes) (e : StoreError) (x : Except StoreError Unit) :
      UpdateCourse s id attributes
        [.acquire (.ok ()), .execute (selectById s key) (.error e), .rollback x]
        (.error (.ofStore s e))
  | several {key : Param} (hkey : s.readId id = .ok key) {changes : Record}
      (h : s.changes attributes = .ok changes) {found : Outcome} (rows : 2 ≤ found.rows.length)
      (x : Except StoreError Unit) :
      UpdateCourse s id attributes
        [.acquire (.ok ()), .execute (selectById s key) (.ok found), .rollback x]
        (.error (.consistency s.resource found.rows.length))
  | absent {key : Param} (hkey : s.readId id = .ok key) {changes : Record}
      (h : s.changes attributes = .ok changes) {found : Outcome} (rows : found.rows = [])
      (x : Except StoreError Unit) :
      UpdateCourse s id attributes
        [.acquire (.ok ()), .execute (selectById s key) (.ok found), .rollback x] (.ok none)
  | unwritten {key : Param} (hkey : s.readId id = .ok key) {changes : Record}
      (h : s.changes attributes = .ok changes) {found : Outcome} {row : Record}
      (rows : found.rows = [row]) {why : Refusal} (hwhy : s.writeBack key row changes = .error why)
      (x : Except StoreError Unit) :
      UpdateCourse s id attributes
        [.acquire (.ok ()), .execute (selectById s key) (.ok found), .rollback x]
        (.error (.validation why))
  | failed {key : Param} (hkey : s.readId id = .ok key) {changes : Record}
      (h : s.changes attributes = .ok changes) {found : Outcome} {row : Record}
      (rows : found.rows = [row]) {update : Statement}
      (hupdate : s.writeBack key row changes = .ok update) (e : StoreError)
      (x : Except StoreError Unit) :
      UpdateCourse s id attributes
        [.acquire (.ok ()), .execute (selectById s key) (.ok found), .execute update (.error e),
          .rollback x]
        (.error (.ofStore s e))
  | miscounted {key : Param} (hkey : s.readId id = .ok key) {changes : Record}
      (h : s.changes attributes = .ok changes) {found : Outcome} {row : Record}
      (rows : found.rows = [row]) {update : Statement}
      (hupdate : s.writeBack key row changes = .ok update) {out : Outcome}
      (affected : out.affected ≠ 1) (x : Except StoreError Unit) :
      UpdateCourse s id attributes
        [.acquire (.ok ()), .execute (selectById s key) (.ok found), .execute update (.ok out),
          .rollback x]
        (.error (.persistence (.updated s.resource out.affected)))
  | uncommitted {key : Param} (hkey : s.readId id = .ok key) {changes : Record}
      (h : s.changes attributes = .ok changes) {found : Outcome} {row : Record}
      (rows : found.rows = [row]) {update : Statement}
      (hupdate : s.writeBack key row changes = .ok update) {out : Outcome}
      (affected : out.affected = 1) (e : StoreError) :
      UpdateCourse s id attributes
        [.acquire (.ok ()), .execute (selectById s key) (.ok found), .execute update (.ok out),
          .commit (.error e)]
        (.error (.ofStore s e))
  | committed {key : Param} (hkey : s.readId id = .ok key) {changes : Record}
      (h : s.changes attributes = .ok changes) {found : Outcome} {row : Record}
      (rows : found.rows = [row]) {update : Statement}
      (hupdate : s.writeBack key row changes = .ok update) {out : Outcome}
      (affected : out.affected = 1) {rest : List Exchange} {a : Answer (Option Record)}
      (again : GetCourse s id rest a) :
      UpdateCourse s id attributes
        (.acquire (.ok ()) :: .execute (selectById s key) (.ok found) ::
          .execute update (.ok out) :: .commit (.ok ()) :: rest)
        (rereadAnswer s id a)

/-- **An update takes no other course.** -/
theorem UpdateCourse.of_path {r : Repository} {id : String} {attributes : Record}
    {log : List Exchange} {a : Answer (Option Record)} (h : Path (r.update id attributes) log a) :
    UpdateCourse r.schema id attributes log a := by
  unfold Repository.update at h
  -- identifier and attributes are looked at before the store is asked
  split at h
  · next why hwhy =>
      obtain ⟨rfl, rfl⟩ := path_refuse_iff.1 h
      exact UpdateCourse.unread hwhy
  next key hkey =>
  split at h
  · next why hwhy =>
      obtain ⟨rfl, rfl⟩ := path_refuse_iff.1 h
      exact UpdateCourse.refused hkey hwhy
  next changes hchanges =>
  replace h := path_opening_iff.1 h
  obtain ⟨e, rfl, rfl⟩ | ⟨rest, rfl, h⟩ := h
  · exact UpdateCourse.unavailable hkey hchanges e
  replace h := path_single_iff.1 h
  obtain ⟨e, x, rfl, rfl⟩ | ⟨found, x, hrows, rfl, rfl⟩ | ⟨row, found, rest, hrows, rfl, h⟩ := h
  · exact UpdateCourse.unselected hkey hchanges e x
  · exact UpdateCourse.several hkey hchanges hrows x
  cases row with
  | none =>
      cases h with
      | @rollback _ x _ _ h =>
          obtain ⟨rfl, rfl⟩ := path_done_iff.1 h
          exact UpdateCourse.absent hkey hchanges hrows x
  | some row =>
      rcases hwrite : r.schema.writeBack key row changes with why | update
      · simp only [hwrite] at h
        obtain ⟨x, rfl, rfl⟩ := path_abandon_iff.1 h
        exact UpdateCourse.unwritten hkey hchanges hrows hwrite x
      simp only [hwrite] at h
      replace h := path_query_iff.1 h
      obtain ⟨e, x, rfl, rfl⟩ | ⟨out, rest, rfl, h⟩ := h
      · exact UpdateCourse.failed hkey hchanges hrows hwrite e x
      by_cases haffected : out.affected = 1
      · rw [if_pos haffected] at h
        replace h := path_conclude_iff.1 h
        obtain ⟨e, rfl, rfl⟩ | ⟨rest, rfl, h⟩ := h
        · exact UpdateCourse.uncommitted hkey hchanges hrows hwrite haffected e
        -- behind the commit the identifier is looked up once more
        · rw [reread_eq_map] at h
          obtain ⟨a', ha', rfl⟩ := path_map_iff.1 h
          exact UpdateCourse.committed hkey hchanges hrows hwrite haffected
            (GetCourse.of_path ha')
      · rw [if_neg haffected] at h
        obtain ⟨x, rfl, rfl⟩ := path_abandon_iff.1 h
        exact UpdateCourse.miscounted hkey hchanges hrows hwrite haffected x

end Circulation
