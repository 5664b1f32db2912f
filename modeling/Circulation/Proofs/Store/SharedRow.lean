/-
**Two clients that change one row at the same time.**

An update reads its row, puts the changes over it, and writes all of it back; nothing keeps another
client from writing in between.  So when two clients change different columns of one row, the one
that writes last decides.  Its own values are always kept.  Those of the other client are kept if
the last writer has read them; if it had read the row before, it writes back what it has read, and
the changes of the other client are lost without a word.

Main definitions:

* `Client` — the two clients;
* `Write` — what an update has read, and what it writes;
* `Holds` — a row that holds values as their columns write them;
* `InTurn` — the order of two updates;
* `LastWrite` — who writes last, and what comes of it.

Main results:

* `UpdateCourse.answered` — what an update that gives its row back has asked;
* `Write.holds_changes`, `Write.holds_of_read` — what a write leaves in the row;
* `InTurn.rows` — what two updates read and leave;
* `Repository.lastWrite_race` — **the last of two writers keeps its values, and the other one keeps
  its own if they were read**, whatever the order of all exchanges.
-/

import Circulation.Proofs.Store.Course
import Circulation.Proofs.Store.RowOfKey

set_option relaxedAutoImplicit false
set_option autoImplicit false

namespace Circulation

/-! ### Clients -/

/-- Two clients. -/
inductive Client where
  | first
  | second
deriving DecidableEq

/-- The other client. -/
def Client.other : Client → Client
  | first => second
  | second => first

theorem Client.other_other (c : Client) : c.other.other = c := by
  cases c <;> rfl

theorem Client.other_ne (c : Client) : c.other ≠ c := by
  cases c <;> decide

theorem Client.eq_other_of_ne {c d : Client} (h : d ≠ c) : d = c.other := by
  cases c <;> cases d <;> first | rfl | exact absurd rfl h

/-! ### What an update asks -/

/-- What an update has read, and what it writes. -/
structure Write (s : Schema) (key : Param) (changes : Record) where
  found : Outcome
  row : Record
  rows : found.rows = [row]
  nonempty : s.merged row changes ≠ []
  params : List Param
  written : List.Forall₂ (fun c p => c.written (mergedValue row changes c) = .ok p)
    (s.merged row changes) params
  out : Outcome
  affected : out.affected = 1

namespace Write

variable {s : Schema} {key : Param} {changes : Record}

/-- The look-up in front of a write. -/
def reading (w : Write s key changes) : Exchange :=
  .execute (selectById s key) (.ok w.found)

/-- The write. -/
def writing (w : Write s key changes) : Exchange :=
  .execute (assigning s (s.merged w.row changes) w.params key) (.ok w.out)

/-- A row after the write. -/
def after (w : Write s key changes) (base : Record) : Record :=
  assigned base (s.merged w.row changes) w.params

end Write

/-- The exchanges of an update that gives its row back. -/
inductive AnsweredUpdate (s : Schema) (key : Param) (changes : Record) : List Exchange → Prop
  | intro (w : Write s key changes) (again : Outcome) :
      AnsweredUpdate s key changes
        [.acquire (.ok ()), w.reading, w.writing, .commit (.ok ()), .acquire (.ok ()),
          .execute (selectById s key) (.ok again), .commit (.ok ())]

/-- The columns that attributes name, with their values; the primary key is never one of them. -/
def Schema.named (s : Schema) (attributes : Record) : Record :=
  (Record.toStorage attributes).erase s.primaryKey

/-- A look-up that finds a row has asked for a connection, the row, and a commit. -/
theorem GetCourse.answered_of_some {s : Schema} {id : String} {log : List Exchange}
    {a : Answer (Option Record)} (h : GetCourse s id log a) {key : Param}
    (hkey : s.readId id = .ok key) (ha : a.isOk = true) :
    ∃ found, log = [.acquire (.ok ()), .execute (selectById s key) (.ok found),
      .commit (.ok ())] := by
  cases h with
  | @answered select h found row rows =>
      obtain ⟨key', hkey', rfl⟩ := Schema.lookup_eq_ok_iff.1 h
      rw [hkey] at hkey'
      cases hkey'
      exact ⟨found, rfl⟩
  | _ => cases ha

/-- **What an update has asked that gives its row back.** -/
theorem UpdateCourse.answered {s : Schema} {id : String} {attributes : Record}
    {log : List Exchange} {a : Answer (Option Record)} (h : UpdateCourse s id attributes log a)
    {key : Param} (hkey : s.readId id = .ok key) {record : Record} (ha : a = .ok (some record)) :
    AnsweredUpdate s key (s.named attributes) log := by
  cases h with
  | @committed key' hkey' changes h found row rows update hupdate out affected rest a again =>
      rw [hkey] at hkey'
      cases hkey'
      obtain ⟨hne, params, hparams, rfl⟩ :=
        (Schema.writeBack_eq_ok_iff_merged (Schema.isSome_column?_of_changes h) key).1 hupdate
      obtain ⟨rfl, -⟩ := Schema.changes_eq_ok_iff.1 h
      have hok : a.isOk = true := by
        match a, ha with
        | .ok (some found), _ => rfl
      obtain ⟨found', rfl⟩ := again.answered_of_some hkey hok
      exact .intro ⟨found, row, rows, hne, params, hparams, out, affected⟩ found'
  | _ => cases ha

/-- Beside its write an update is quiet. -/
theorem AnsweredUpdate.quiet {s : Schema} {key : Param} {changes : Record} {log : List Exchange}
    (h : AnsweredUpdate s key changes log) {x : Exchange} (hx : x ∈ log)
    (hwrite : x.isWrite = false) : x.Quiet s key := by
  cases h with
  | intro w again =>
      simp only [List.mem_cons, List.not_mem_nil, or_false] at hx
      rcases hx with rfl | rfl | rfl | rfl | rfl | rfl | rfl
      · exact .acquire
      · exact .select _
      · cases hwrite
      · exact .commit
      · exact .acquire
      · exact .select _
      · exact .commit

/-! ### What a write leaves -/

/-- A row that holds values as their columns write them. -/
def Holds (s : Schema) (row values : Record) : Prop :=
  ∀ c ∈ s.columns, ∀ v, values.get? c.name = some v →
    ∃ p, c.written v = .ok p ∧ row.get? c.name = some p.stored

namespace Write

variable {s : Schema} {key : Param} {changes : Record}

/-- Every column of the row and of the changes gets its merged value. -/
theorem get?_after (hs : s ∈ catalogue) (w : Write s key changes) {c : Column} (hc : c ∈ s.columns)
    (hkey : c.name ≠ s.primaryKey)
    (hin : changes.contains c.name = true ∨ w.row.contains c.name = true) (base : Record) :
    ∃ p, c.written (mergedValue w.row changes c) = .ok p ∧
      (w.after base).get? c.name = some p.stored := by
  have hmem : c ∈ s.merged w.row changes := by
    refine List.mem_filter.2 ⟨hc, ?_⟩
    simp only [Bool.and_eq_true, decide_eq_true_eq, Bool.or_eq_true]
    exact ⟨hkey, hin⟩
  exact get?_assigned_of_mem w.written (Schema.nodup_map_name_merged hs) hmem base

/-- The changes are in the row. -/
theorem holds_changes (hs : s ∈ catalogue) (w : Write s key changes)
    (hnokey : changes.get? s.primaryKey = none) (base : Record) :
    Holds s (w.after base) changes := by
  intro c hc v hv
  have hkey : c.name ≠ s.primaryKey := by
    intro heq
    rw [heq, hnokey] at hv
    cases hv
  have hcontains : changes.contains c.name = true := by
    rw [Dict.contains_eq_isSome, hv]
    rfl
  obtain ⟨p, hp, hget⟩ := w.get?_after hs hc hkey (Or.inl hcontains) base
  rw [mergedValue, hv] at hp
  exact ⟨p, hp, hget⟩

/-- What was read and is not changed is in the row, the way its column writes it. -/
theorem holds_read (hs : s ∈ catalogue) (w : Write s key changes) {values : Record}
    (hvalues : ∀ name v, values.get? name = some v →
      name ≠ s.primaryKey ∧ changes.get? name = none ∧ w.row.get? name = some v) (base : Record) :
    Holds s (w.after base) values := by
  intro c hc v hv
  obtain ⟨hkey, hchange, hrow⟩ := hvalues c.name v hv
  have hcontains : w.row.contains c.name = true := by
    rw [Dict.contains_eq_isSome, hrow]
    rfl
  obtain ⟨p, hp, hget⟩ := w.get?_after hs hc hkey (Or.inr hcontains) base
  rw [mergedValue, hchange, Option.getD_none, Record.valueOf, hrow] at hp
  exact ⟨p, hp, hget⟩

/-- **What the row held when it was read, it holds when it has been written back.** -/
theorem holds_of_read (hs : s ∈ catalogue) (w : Write s key changes) {values : Record}
    (hvalues : Holds s w.row values)
    (hapart : ∀ name, values.contains name = true →
      name ≠ s.primaryKey ∧ changes.get? name = none) (base : Record) :
    Holds s (w.after base) values := by
  intro c hc v hv
  obtain ⟨p, hp, hrow⟩ := hvalues c hc v hv
  have hcontains : values.contains c.name = true := by
    rw [Dict.contains_eq_isSome, hv]
    rfl
  obtain ⟨hkey, hchange⟩ := hapart c.name hcontains
  have hcontains' : w.row.contains c.name = true := by
    rw [Dict.contains_eq_isSome, hrow]
    rfl
  obtain ⟨p', hp', hget⟩ := w.get?_after hs hc hkey (Or.inr hcontains') base
  -- the value that was read is one that was written, so it is written as it is
  rw [mergedValue, hchange, Option.getD_none, Record.valueOf, hrow, Option.getD_some,
    Column.written_stored hp] at hp'
  obtain rfl := Except.ok.inj hp'
  exact ⟨p, hp, hget⟩

end Write

/-! ### Two writes -/

open Race

/-- Where one client has no exchange, all are those of the other one. -/
theorem eq_map_own_of_own_eq_nil {log : List (Client × Exchange)} {c : Client}
    (h : own c log = []) : log = (own c.other log).map fun x => (c.other, x) := by
  induction log with
  | nil => rfl
  | cons e log ih =>
      obtain ⟨d, x⟩ := e
      by_cases hd : d = c
      · subst hd
        rw [own_cons_self] at h
        cases h
      · rw [own_cons_of_ne hd] at h
        obtain rfl := Client.eq_other_of_ne hd
        rw [own_cons_self, List.map_cons, ← ih h]

/-- Of two clients with one exchange each, one has the last one. -/
theorem exists_last {log : List (Client × Exchange)} (h : ∀ c, ∃ u, own c log = [u]) :
    ∃ (last : Client) (u u' : Exchange), log = [(last.other, u), (last, u')] := by
  cases log with
  | nil =>
      obtain ⟨u, hu⟩ := h .first
      cases hu
  | cons e log =>
      obtain ⟨c, x⟩ := e
      obtain ⟨u, hu⟩ := h c
      obtain ⟨u', hu'⟩ := h c.other
      rw [own_cons_self] at hu
      rw [own_cons_of_ne (Ne.symm c.other_ne)] at hu'
      have hlog := eq_map_own_of_own_eq_nil (List.cons.inj hu).2
      rw [hu'] at hlog
      refine ⟨c.other, x, u', ?_⟩
      rw [hlog, Client.other_other]
      rfl

theorem own_filter (c : Client) (p : Exchange → Bool) (log : List (Client × Exchange)) :
    own c (log.filter fun x => p x.2) = (own c log).filter p := by
  rw [own, own, List.filter_filter, List.filter_map, List.filter_filter]
  congr 2
  funext x
  exact Bool.and_comm _ _

/-- **Two clients that write once each write one after the other.** -/
theorem two_writes {log : List (Client × Exchange)}
    (h : ∀ c, ∃ u, (own c log).filter Exchange.isWrite = [u]) :
    ∃ (last : Client) (before between behind : List (Client × Exchange)) (u u' : Exchange),
      log = before ++ (last.other, u) :: (between ++ (last, u') :: behind) ∧
      u.isWrite = true ∧ u'.isWrite = true ∧
      ∀ x ∈ before ++ (between ++ behind), x.2.isWrite = false := by
  have hwrites : ∀ c, ∃ u, own c (log.filter fun x => x.2.isWrite) = [u] := by
    intro c
    obtain ⟨u, hu⟩ := h c
    exact ⟨u, (own_filter c Exchange.isWrite log).trans hu⟩
  obtain ⟨last, u, u', hlog⟩ := exists_last hwrites
  obtain ⟨before, rest, rfl, hbefore, hu, hrest⟩ := List.filter_eq_cons_iff.1 hlog
  obtain ⟨between, behind, rfl, hbetween, hu', hbehind⟩ := List.filter_eq_cons_iff.1 hrest
  rw [List.filter_eq_nil_iff] at hbehind
  refine ⟨last, before, between, behind, u, u', rfl, hu, hu', ?_⟩
  intro x hx
  rw [← Bool.not_eq_true]
  rcases List.mem_append.1 hx with hx | hx
  · exact hbefore x hx
  · rcases List.mem_append.1 hx with hx | hx
    · exact hbetween x hx
    · exact hbehind x hx

/-- An update that gives its row back writes once. -/
theorem AnsweredUpdate.filter_isWrite {s : Schema} {key : Param} {changes : Record}
    {log : List Exchange} (h : AnsweredUpdate s key changes log) :
    ∃ u, log.filter Exchange.isWrite = [u] := by
  cases h with
  | intro w again => exact ⟨_, rfl⟩

/-- In front of its write an update has asked for a connection and for its row. -/
theorem AnsweredUpdate.front {s : Schema} {key : Param} {changes : Record}
    {front back : List Exchange} {u : Exchange}
    (h : AnsweredUpdate s key changes (front ++ u :: back))
    (hfront : ∀ x ∈ front, x.isWrite = false) (hu : u.isWrite = true) :
    ∃ w : Write s key changes, front = [.acquire (.ok ()), w.reading] ∧ u = w.writing := by
  generalize hlog : front ++ u :: back = log at h
  cases h with
  | intro w again =>
      have hquiet : ∀ x ∈ [Exchange.acquire (.ok ()), w.reading], x.isWrite = false := by
        intro x hx
        simp only [List.mem_cons, List.not_mem_nil, or_false] at hx
        rcases hx with rfl | rfl <;> rfl
      have hwriting : w.writing.isWrite = true := rfl
      obtain ⟨hfront', hu', -⟩ := cut_unique hfront hu hquiet hwriting hlog
      exact ⟨w, hfront', hu'⟩

/-! ### Who writes last -/

/-- Whether a client has read in a part of a log. -/
def Client.Reads (c : Client) (log : List (Client × Exchange)) : Prop :=
  ∃ x ∈ log, x.1 = c ∧ x.2.isRead = true

/-- Who writes last, what happens before, between and behind the two writes, and what comes of it:
the row holds what the last writer has named; it holds what the other one has named as well if the
last writer had not read the row before the other one wrote; and otherwise it holds in these columns
what stood there at the beginning. -/
structure LastWrite (s : Schema) (named : Client → Record) (initial final : Record)
    (log : List (Client × Exchange)) (last : Client)
    (before between behind : List (Client × Exchange)) : Prop where
  log_eq : ∃ u u' : Exchange, log = before ++ (last.other, u) :: (between ++ (last, u') :: behind) ∧
    u.isWrite = true ∧ u'.isWrite = true
  quiet : ∀ x ∈ before ++ (between ++ behind), x.2.isWrite = false
  own : Holds s final (named last)
  kept : ¬last.Reads before → Holds s final (named last.other)
  lost : last.Reads before →
    Holds s final (initial.filter fun name _ => (named last.other).contains name)

/-- The value of a named column; the primary key has none. -/
theorem Schema.get?_named_primaryKey (s : Schema) (attributes : Record) :
    (s.named attributes).get? s.primaryKey = none := by
  rw [named, Dict.get?_erase, if_pos rfl]

/-- What is written leaves the primary key out. -/
theorem Schema.merged_sublist_settable (s : Schema) (row changes : Record) :
    (s.merged row changes).Sublist s.settable := by
  have hmerged : s.merged row changes =
      s.settable.filter fun c => changes.contains c.name || row.contains c.name := by
    rw [merged, settable, List.filter_filter]
    refine List.filter_congr fun c _ => ?_
    exact Bool.and_comm _ _
  rw [hmerged]
  exact List.filter_sublist

section Apart

variable {s : Schema} {attributes : Client → Record}

/-- What one client names, the other one does not, and it is not the primary key. -/
theorem get?_eq_none_of_named
    (hdisjoint : ∀ name, (s.named (attributes .first)).contains name = true →
      (s.named (attributes .second)).contains name = false) (c : Client) {name : String}
    (h : (s.named (attributes c.other)).contains name = true) :
    name ≠ s.primaryKey ∧ (s.named (attributes c)).get? name = none := by
  constructor
  · rintro rfl
    rw [Dict.contains_eq_isSome, Schema.get?_named_primaryKey] at h
    cases h
  · cases hget : (s.named (attributes c)).get? name with
    | none => rfl
    | some v =>
        have hcontains : (s.named (attributes c)).contains name = true := by
          rw [Dict.contains_eq_isSome, hget]
          rfl
        cases c with
        | first =>
            have hfalse : (s.named (attributes Client.first.other)).contains name = false :=
              hdisjoint name hcontains
            rw [hfalse] at h
            cases h
        | second =>
            rw [hdisjoint name h] at hcontains
            cases hcontains

end Apart

/-! ### The order of two updates -/

/-- Two updates in a log: what happens before, between and behind the two writes, and where the
last writer has read. -/
structure InTurn (s : Schema) (key : Param) (named : Client → Record)
    (log : List (Client × Exchange)) (last : Client)
    (before between behind : List (Client × Exchange)) (w : Write s key (named last.other))
    (w' : Write s key (named last)) : Prop where
  log_eq : log = before ++ (last.other, w.writing) :: (between ++ (last, w'.writing) :: behind)
  quiet : ∀ x ∈ before ++ (between ++ behind), x.2.isWrite = false ∧ x.2.Quiet s key
  otherRead : (last.other, w.reading) ∈ before
  lastRead : (last, w'.reading) ∈ before ∨ (last, w'.reading) ∈ between
  onlyRead : ∀ x ∈ before, x.1 = last → x.2.isRead = true → x.2 = w'.reading

/-- Two updates that give their row back come one after the other. -/
theorem exists_inTurn {s : Schema} {key : Param} {named : Client → Record}
    {log : List (Client × Exchange)}
    (hupdates : ∀ c, AnsweredUpdate s key (named c) (own c log)) :
    ∃ last before between behind w w',
      InTurn s key named log last before between behind w w' := by
  obtain ⟨last, before, between, behind, u, u', rfl, hu, hu', hwrite⟩ :=
    two_writes fun c => (hupdates c).filter_isWrite
  have hown : ∀ (c : Client) (part : List (Client × Exchange)),
      part ⊆ before ++ (between ++ behind) → ∀ x ∈ own c part, x.isWrite = false :=
    fun c part hpart x hx => hwrite (c, x) (hpart (mem_own_iff.1 hx))
  have hother := hupdates last.other
  rw [own_append, own_cons_self] at hother
  obtain ⟨w, hfront, rfl⟩ := hother.front (hown _ before (List.subset_append_left ..)) hu
  have hlast := hupdates last
  rw [own_append, own_cons_of_ne last.other_ne, own_append, own_cons_self, ← List.append_assoc,
    ← own_append] at hlast
  have hsubset : before ++ between ⊆ before ++ (between ++ behind) := by
    rw [← List.append_assoc]
    exact List.subset_append_left ..
  obtain ⟨w', hfront', rfl⟩ := hlast.front (hown _ _ hsubset) hu'
  refine ⟨last, before, between, behind, w, w', rfl, ?_, ?_, ?_, ?_⟩
  · intro x hx
    refine ⟨hwrite x hx, (hupdates x.1).quiet (mem_own_iff.2 ?_) (hwrite x hx)⟩
    simp only [List.mem_append, List.mem_cons] at hx ⊢
    rcases hx with hx | hx | hx
    · exact Or.inl hx
    · exact Or.inr (Or.inr (Or.inl hx))
    · exact Or.inr (Or.inr (Or.inr (Or.inr hx)))
  · rw [← mem_own_iff, hfront]
    exact List.mem_cons_of_mem _ List.mem_cons_self
  · rw [← List.mem_append, ← mem_own_iff, hfront']
    exact List.mem_cons_of_mem _ List.mem_cons_self
  · rintro ⟨c, x⟩ hx hc hread
    have hmem : x ∈ own last (before ++ between) := by
      rw [← show c = last from hc]
      exact mem_own_iff.2 (List.mem_append_left between hx)
    rw [hfront'] at hmem
    simp only [List.mem_cons, List.not_mem_nil, or_false] at hmem
    rcases hmem with rfl | rfl
    · cases hread
    · rfl

/-! ### What becomes of the row -/

section Rows

variable {σ : Type} {b : Backend σ} {s : Schema} {key : Param} {row : σ → Record}

/-- A write does to the row what it says. -/
theorem Write.row_of_happens (hb : KeepsRow b s key row) {changes : Record}
    (w : Write s key changes) {store store' : σ} (h : w.writing.Happens b store store') :
    row store' = w.after (row store) :=
  hb.update (s.merged_sublist_settable w.row changes) w.nonempty w.written.length_eq h w.affected

/-- What a write has read while nothing was written is the row as it stood. -/
theorem Write.row_of_mem (hb : KeepsRow b s key row) {changes : Record} (w : Write s key changes)
    {xs : List Exchange} {store store' : σ} (h : Happen b xs store store')
    (hquiet : ∀ x ∈ xs, x.Quiet s key) (hmem : w.reading ∈ xs) : w.row = row store := by
  have hrows := (row_of_quiet hb h hquiet).2 w.found hmem
  rw [w.rows] at hrows
  exact (List.cons.inj hrows).1

/-- What two updates have read and made of the row, one of which writes after the other. -/
structure RowsInTurn {first second : Record} (w : Write s key first) (w' : Write s key second)
    (early : Prop) (initial final : Record) : Prop where
  first : w.row = initial
  late : ¬early → w'.row = w.after initial
  early : early → w'.row = initial
  final_eq : final = w'.after (w.after initial)

/-- **The first writer has read the row of the beginning, and the last one that row too or the row
the first one has left**; what stands there at the end is what the last one makes of it. -/
theorem InTurn.rows (hb : KeepsRow b s key row) {named : Client → Record}
    {log : List (Client × Exchange)} {last : Client}
    {before between behind : List (Client × Exchange)} {w : Write s key (named last.other)}
    {w' : Write s key (named last)} (h : InTurn s key named log last before between behind w w')
    {store store' : σ} (hhappen : Happen b (log.map Prod.snd) store store') :
    RowsInTurn w w' (last.Reads before) (row store) (row store') := by
  have hquiet : ∀ part : List (Client × Exchange), part ⊆ before ++ (between ++ behind) →
      ∀ x ∈ part.map Prod.snd, x.Quiet s key := by
    intro part hpart x hx
    obtain ⟨e, he, rfl⟩ := List.mem_map.1 hx
    exact (h.quiet e (hpart he)).2
  have hbefore := hquiet before (List.subset_append_left ..)
  have hbetween := hquiet between fun e he => by simp [he]
  have hbehind := hquiet behind fun e he => by simp [he]
  rw [h.log_eq, List.map_append, List.map_cons, List.map_append, List.map_cons] at hhappen
  obtain ⟨store₁, hto₁, store₂, hw, hrest⟩ := happen_append.1 hhappen
  obtain ⟨store₃, hto₃, store₄, hw', hto'⟩ := happen_append.1 hrest
  have hrow₁ := (row_of_quiet hb hto₁ hbefore).1
  have hrow₂ : row store₂ = w.after (row store) := by
    rw [w.row_of_happens hb hw, hrow₁]
  have hrow₃ : row store₃ = w.after (row store) := by
    rw [(row_of_quiet hb hto₃ hbetween).1, hrow₂]
  have hrow₄ : row store₄ = w'.after (w.after (row store)) := by
    rw [w'.row_of_happens hb hw', hrow₃]
  refine ⟨w.row_of_mem hb hto₁ hbefore (List.mem_map_of_mem h.otherRead), ?_, ?_, ?_⟩
  · intro hlate
    rcases h.lastRead with hread | hread
    · exact absurd ⟨_, hread, rfl, rfl⟩ hlate
    · rw [w'.row_of_mem hb hto₃ hbetween (List.mem_map_of_mem hread), hrow₂]
  · rintro ⟨x, hx, hclient, hread⟩
    refine w'.row_of_mem hb hto₁ hbefore ?_
    rw [← h.onlyRead x hx hclient hread]
    exact List.mem_map_of_mem hx
  · rw [(row_of_quiet hb hto' hbehind).1, hrow₄]

/-- Two updates that name different columns and give their row back: one of them writes last. -/
theorem exists_lastWrite (hs : s ∈ catalogue) {attributes : Client → Record}
    (hdisjoint : ∀ name, (s.named (attributes .first)).contains name = true →
      (s.named (attributes .second)).contains name = false)
    (hb : KeepsRow b s key row) {log : List (Client × Exchange)} {store store' : σ}
    (hhappen : Happen b (log.map Prod.snd) store store')
    (hupdates : ∀ c, AnsweredUpdate s key (s.named (attributes c)) (own c log)) :
    ∃ last before between behind,
      LastWrite s (fun c => s.named (attributes c)) (row store) (row store') log last before
        between behind := by
  obtain ⟨last, before, between, behind, w, w', h⟩ := exists_inTurn hupdates
  have hrows := h.rows hb hhappen
  refine ⟨last, before, between, behind, ⟨⟨_, _, h.log_eq, rfl, rfl⟩, ?_, ?_, ?_, ?_⟩⟩
  · exact fun x hx => (h.quiet x hx).1
  · rw [hrows.final_eq]
    exact w'.holds_changes hs (s.get?_named_primaryKey _) _
  · intro hlate
    rw [hrows.final_eq]
    refine w'.holds_of_read hs ?_ (fun name => get?_eq_none_of_named hdisjoint last) _
    rw [hrows.late hlate]
    exact w.holds_changes hs (s.get?_named_primaryKey _) _
  · intro hearly
    rw [hrows.final_eq]
    refine w'.holds_read hs ?_ _
    intro name v hv
    rw [Dict.get?_filter] at hv
    split at hv
    · next hnamed =>
        obtain ⟨hkey, hnone⟩ := get?_eq_none_of_named hdisjoint last hnamed
        refine ⟨hkey, hnone, ?_⟩
        rw [hrows.early hearly]
        exact hv
    · cases hv

end Rows

/-- **The last of two writers keeps its values, and the other one keeps its own if they were read.**
Two clients change different columns of one row, in any order of their exchanges, and both get the
row back. -/
theorem Repository.lastWrite_race {σ : Type} {b : Backend σ} {r : Repository} {key : Param}
    {row : σ → Record} (hb : KeepsRow b r.schema key row) (hs : r.schema ∈ catalogue)
    {ids : Client → String} (hids : ∀ c, r.schema.readId (ids c) = .ok key)
    {attributes : Client → Record}
    (hdisjoint : ∀ name, (r.schema.named (attributes .first)).contains name = true →
      (r.schema.named (attributes .second)).contains name = false)
    (store : σ) (schedule : List Client) {race : Race Client (Answer (Option Record)) σ}
    (hrace : race = (Race.start (fun c => r.update (ids c) (attributes c)) store).run b schedule)
    (hanswer : ∀ c, ∃ record, (race.running c).answer? = some (.ok (some record))) :
    ∃ last before between behind,
      LastWrite r.schema (fun c => r.schema.named (attributes c)) (row store) (row race.store)
        race.log last before between behind := by
  have hconsistent : Race.Consistent b (fun c => r.update (ids c) (attributes c)) store race := by
    rw [hrace]
    exact Race.consistent_run Race.consistent_start schedule
  refine exists_lastWrite hs hdisjoint hb hconsistent.happen fun c => ?_
  obtain ⟨record, hrecord⟩ := hanswer c
  have hpath := Race.path_own hconsistent hrecord
  exact (UpdateCourse.of_path hpath).answered (hids c) rfl

/-- One client changes the title of a book, the other one its author. -/
def retitled : Client → Record
  | .first => .ofList [("title", .str "Persuasion")]
  | .second => .ofList [("author", .str "Jane")]

theorem retitled_apart (name : String)
    (h : (books.named (retitled .first)).contains name = true) :
    (books.named (retitled .second)).contains name = false := by
  have hkeys : (books.named (retitled .first)).keys = ["title"] := by rfl
  rw [Dict.contains_iff_mem_keys, hkeys, List.mem_singleton] at h
  rw [h]
  rfl

/-- The book. -/
def emma : Record :=
  .ofList [("author", .str "austen"), ("book_id", .ofInt 7), ("title", .str "emma")]

/-- Both clients read the book before either of them writes. -/
def readFirst : List Client :=
  [.first, .first, .second, .second, .first, .first, .second, .second,
    .first, .first, .first, .second, .second, .second]

/-- The race of the two clients for the book. -/
def bookRace : Race Client (Answer (Option Record)) Record :=
  (Race.start (fun c => Repository.update ⟨books, ⟨2024, 5, 17, by decide⟩⟩ "7" (retitled c))
    emma).run (soleRow books (.int 7)) readFirst

/-- Both of them are told that all is well. -/
theorem answer_bookRace (c : Client) :
    ∃ record, (bookRace.running c).answer? = some (.ok (some record)) := by
  cases c with
  | first => exact ⟨_, rfl⟩
  | second => exact ⟨_, rfl⟩

/-- One of them has written last. -/
theorem Repository.lastWrite_race_readFirst :
    (∀ c, ∃ record, (bookRace.running c).answer? = some (.ok (some record))) ∧
      ∃ last before between behind,
        LastWrite books (fun c => books.named (retitled c)) emma bookRace.store bookRace.log last
          before between behind := by
  refine ⟨answer_bookRace, ?_⟩
  have hs : books ∈ catalogue := by simp [catalogue]
  exact Repository.lastWrite_race (r := ⟨books, ⟨2024, 5, 17, by decide⟩⟩)
    (keepsRow_soleRow hs (.int 7)) hs (fun _ => rfl) retitled_apart emma readFirst rfl
    answer_bookRace

/-- The new title is lost: the second client has written back the one that it has read. -/
theorem title_lost_bookRace :
    KeepsRow (soleRow books (.int 7)) books (.int 7) id ∧
      (∀ name, (books.named (retitled .first)).contains name = true →
        (books.named (retitled .second)).contains name = false) ∧
      (∀ c, ∃ record, (bookRace.running c).answer? = some (.ok (some record))) ∧
      bookRace.store =
        .ofList [("author", .str "jane"), ("book_id", .ofInt 7), ("title", .str "emma")] ∧
      ¬Holds books bookRace.store (books.named (retitled .first)) := by
  refine ⟨keepsRow_soleRow (by simp [catalogue]) _, retitled_apart, answer_bookRace, rfl, ?_⟩
  intro hholds
  obtain ⟨p, hp, hrow⟩ := hholds (.free "title") (by decide) (.str "Persuasion") rfl
  have hlost : bookRace.store.get? "title" = some (.str "emma") := rfl
  obtain rfl : p = .text "persuasion" := (Except.ok.inj hp).symm
  rw [show (Column.free "title").name = "title" from rfl, hlost] at hrow
  have hsame : "emma" = "persuasion" := Json.str.inj (Option.some.inj hrow)
  exact absurd hsame (by decide)

end Circulation
