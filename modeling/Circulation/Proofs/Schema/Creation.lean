/-
**What a new row gets.**

A row is made of the attributes that a client sends and of the values that the schema has for new
rows.  Texts and truth values of the schema replace what was sent, the day of the creation fills a
gap only.  All of this is done to names in the storage spelling, with the primary key left out, so
it does not matter how the client spells a name, and which of its columns the server decides on.

Main definitions:

* `Schema.initial?`, `InitialValue.putOver` — the value of a new row in a column, and what it makes
  of another one;
* `Schema.Fit` — attributes that make a row;
* `Schema.Gets`, `Schema.NewRow` — the parameter of a column in a new row, and those of all columns;
* `inserting` — the statement that inserts a row.

Main results:

* `Schema.get?_withInitial` — a record with the values of a new row, name by name;
* `Schema.creation_newRow` — **a row is inserted with just the columns that are named or have a
  value in new rows, and each of them gets its own**;
* `Schema.creation_of_fit`, `Schema.fit_of_creation` — **there is a statement just for attributes
  that are fit**.
-/

import Circulation.Proofs.Schema.Merge
import Circulation.Proofs.Schema.Stored

set_option relaxedAutoImplicit false
set_option autoImplicit false

namespace Circulation

/-! ### The values of new rows -/

namespace InitialValue

/-- A value of new rows put over another one: the day fills a gap, any other one replaces. -/
def putOver (day : Date) (given : Option Json) : InitialValue → Option Json
  | text s => some (.str s)
  | bool b => some (.bool b)
  | today => if given.all Json.isNull then some (.str day.iso) else given

/-- A column takes a value of new rows as it is. -/
def Suits (c : Column) : InitialValue → Prop
  | text s => c.type = .text ∧ c.letters.apply s = s
  | bool _ => c.type = .boolean
  | today => c.type = .date

instance (c : Column) : DecidablePred (Suits c)
  | text _ => inferInstanceAs (Decidable (_ ∧ _))
  | bool _ => inferInstanceAs (Decidable (_ = _))
  | today => inferInstanceAs (Decidable (_ = _))

end InitialValue

theorem Record.isMissing_eq_all (r : Record) (name : String) :
    r.isMissing name = (r.get? name).all Json.isNull := by
  cases h : r.get? name <;> simp [isMissing, h]

namespace Schema

/-- The value of a column in new rows, if there is one. -/
def initial? (s : Schema) (name : String) : Option InitialValue :=
  (s.initial.find? fun i => i.column == name).map Initial.value

/-- What holds of the values of new rows: there are some, each for a column of its own that is
neither the key nor required and takes the value as it is. -/
structure InitialLaws (s : Schema) : Prop where
  nonempty : s.initial ≠ []
  nodup : (s.initial.map Initial.column).Nodup
  settable : ∀ i ∈ s.initial, i.column ≠ s.primaryKey ∧ (s.column? i.column).isSome = true
  suits : ∀ c ∈ s.columns, ∀ v ∈ s.initial? c.name, v.Suits c
  required : ∀ name ∈ s.required,
    name ≠ s.primaryKey ∧ (s.column? name).isSome = true ∧ s.initial? name = none

theorem initialLaws_of_mem_catalogue {s : Schema} (hs : s ∈ catalogue) : s.InitialLaws where
  nonempty := by
    have hall : ∀ s ∈ catalogue, s.initial ≠ [] := by decide
    exact hall s hs
  nodup := by
    have hall : ∀ s ∈ catalogue, (s.initial.map Initial.column).Nodup := by decide
    exact hall s hs
  settable := by
    have hall : ∀ s ∈ catalogue, ∀ i ∈ s.initial,
        i.column ≠ s.primaryKey ∧ (s.column? i.column).isSome = true := by decide
    exact hall s hs
  suits := by
    have hall : ∀ s ∈ catalogue, ∀ c ∈ s.columns, ∀ v ∈ s.initial? c.name, v.Suits c := by
      decide +kernel
    exact hall s hs
  required := by
    have hall : ∀ s ∈ catalogue, ∀ name ∈ s.required,
        name ≠ s.primaryKey ∧ (s.column? name).isSome = true ∧ s.initial? name = none := by decide
    exact hall s hs

variable {s : Schema} {today : Date}

theorem get?_putInitial (today : Date) (r : Record) (i : Initial) (name : String) :
    (putInitial today r i).get? name =
      if i.column = name then i.value.putOver today (r.get? name) else r.get? name := by
  unfold putInitial
  cases i.value with
  | text t => exact Dict.get?_insert r i.column name _
  | bool b => exact Dict.get?_insert r i.column name _
  | today =>
      simp only [Record.isMissing_eq_all]
      by_cases hname : i.column = name
      · subst hname
        rw [if_pos rfl, InitialValue.putOver]
        split
        · rw [Dict.get?_insert, if_pos rfl]
        · rfl
      · rw [if_neg hname]
        split
        · rw [Dict.get?_insert, if_neg hname]
        · rfl

/-- Values for different columns are put in one after the other, each once. -/
theorem get?_foldl_putInitial {is : List Initial} (hnodup : (is.map Initial.column).Nodup)
    (r : Record) (name : String) :
    (is.foldl (putInitial today) r).get? name =
      (is.find? fun i => i.column == name).elim (r.get? name)
        fun i => i.value.putOver today (r.get? name) := by
  induction is generalizing r with
  | nil => rfl
  | cons i is ih =>
      rw [List.map_cons, List.nodup_cons] at hnodup
      rw [List.foldl_cons, ih hnodup.2, get?_putInitial]
      by_cases hname : i.column = name
      · -- no later value is for the same column
        have hnone : (is.find? fun j => j.column == name) = none := by
          refine List.find?_eq_none.2 fun j hj heq => hnodup.1 ?_
          rw [hname, ← beq_iff_eq.1 heq]
          exact List.mem_map_of_mem hj
        rw [hnone, List.find?_cons_of_pos (by simpa using hname), if_pos hname]
        rfl
      · rw [List.find?_cons_of_neg (by simpa using hname), if_neg hname]

/-- **A record with the values of a new row, name by name.** -/
theorem get?_withInitial (h : s.InitialLaws) (today : Date) (r : Record) (name : String) :
    (s.withInitial today r).get? name =
      (s.initial? name).elim (r.get? name) (·.putOver today (r.get? name)) := by
  rw [withInitial, get?_foldl_putInitial h.nodup, initial?]
  cases s.initial.find? fun i => i.column == name <;> rfl

end Schema

/-! ### What columns of new rows get -/

namespace Column

variable {c : Column} {v : Json} {p : Param}

/-- A value is written as a missing one exactly when it is null. -/
theorem isNull_of_written (h : c.written v = .ok p) : p.isNull = v.isNull := by
  obtain ⟨q, hq, rfl⟩ := except_map_eq_ok_iff.1 h
  rw [← (type_of_param hq).2]
  cases q <;> rfl

/-- A text of new rows is written as it is. -/
theorem written_text {t : String} (h : (InitialValue.text t).Suits c) :
    c.written (.str t) = .ok (.text t) := by
  obtain ⟨htype, hletters⟩ := h
  refine except_map_eq_ok_iff.2 ⟨.text t, ?_, ?_⟩
  · rw [param, htype]
    rfl
  · rw [LetterCase.applyParam, hletters]

/-- A truth value of new rows is written as it is. -/
theorem written_bool {b : Bool} (h : (InitialValue.bool b).Suits c) :
    c.written (.bool b) = .ok (.bool b) := by
  refine except_map_eq_ok_iff.2 ⟨.bool b, ?_, rfl⟩
  rw [param, show c.type = .boolean from h]
  rfl

/-- A day that can be written is written as it is. -/
theorem eq_of_written_iso (h : InitialValue.today.Suits c) {d : Date}
    (hp : c.written (.str d.iso) = .ok p) : p = .date d := by
  obtain ⟨q, hq, rfl⟩ := except_map_eq_ok_iff.1 hp
  have htype : c.type = .date := h
  simp only [param, Json.isNull, htype, dateParam] at hq
  cases hread : readDate d.iso with
  | error e =>
      rw [hread] at hq
      cases hq
  | ok d' =>
      obtain rfl := eq_of_readDate_iso hread
      rw [hread] at hq
      obtain rfl : Param.date d' = q := Except.ok.inj hq
      rfl

/-- A day of a year in four digits can be written. -/
theorem written_iso (h : InitialValue.today.Suits c) {d : Date} (hlow : 0 ≤ d.year)
    (hhigh : d.year ≤ 9999) : c.written (.str d.iso) = .ok (.date d) := by
  have htype : c.type = .date := h
  refine except_map_eq_ok_iff.2 ⟨.date d, ?_, rfl⟩
  simp only [param, Json.isNull, htype, dateParam, readDate_iso hlow hhigh]
  rfl

end Column

/-- The statement that inserts a row with these columns. -/
def inserting (s : Schema) (columns : List Column) (params : List Param) : Statement where
  kind := .query
  sql := insertionSql s columns
  params := params

namespace Schema

/-- What a column of a new row gets: the text or the truth value that the schema has for it,
whatever was sent; the day of the creation if nothing was sent for it; and else what was sent, the
way the column writes it. -/
def Gets (s : Schema) (day : Date) (sent : Record) (c : Column) (p : Param) : Prop :=
  match s.initial? c.name with
  | some (.text t) => p = .text t
  | some (.bool b) => p = .bool b
  | some .today =>
      if sent.isMissing c.name = true then p = .date day
      else c.written (sent.valueOf c.name) = .ok p
  | none => ∃ v, sent.get? c.name = some v ∧ c.written v = .ok p

/-- The columns of a new row with their parameters. -/
structure NewRow (s : Schema) (day : Date) (sent : Record) (columns : List Column)
    (params : List Param) : Prop where
  sublist : columns.Sublist s.columns
  nodup : (columns.map Column.name).Nodup
  names : ∀ name, name ∈ columns.map Column.name ↔ name ≠ s.primaryKey ∧
    (sent.contains name = true ∨ name ∈ s.initial.map Initial.column)
  gets : List.Forall₂ (s.Gets day sent) columns params
  required : ∀ name ∈ s.required, ∃ e ∈ columns.zip params, e.1.name = name ∧ e.2.isNull = false

/-- Attributes that make a row: every name is one of a column, nothing required is missing, and
every value that counts does for its column. -/
structure Fit (s : Schema) (attributes : Record) : Prop where
  known : ∀ key ∈ attributes.keys, (s.column? (toStorageCasing key)).isSome = true
  required : ∀ name ∈ s.required, (Record.toStorage attributes).isMissing name = false
  typed : ∀ c ∈ s.columns, c.name ≠ s.primaryKey →
    (s.initial? c.name = none ∨ s.initial? c.name = some .today) →
      ∀ v, (Record.toStorage attributes).get? c.name = some v → ∃ p, c.written v = .ok p

section NewRow

variable {s : Schema} {day : Date} {sent : Record}

/-- What a column of a new row holds before it is typed. -/
theorem get?_withInitial_erase (h : s.InitialLaws) (day : Date) (sent : Record) {name : String}
    (hname : name ≠ s.primaryKey) :
    (s.withInitial day (sent.erase s.primaryKey)).get? name =
      (s.initial? name).elim (sent.get? name) (·.putOver day (sent.get? name)) := by
  rw [get?_withInitial h, Dict.get?_erase, if_neg (Ne.symm hname)]

/-- A column of a new row is named, or there is a value for it. -/
theorem contains_withInitial_erase (day : Date) (sent : Record) {name : String}
    (hname : name ≠ s.primaryKey) :
    (s.withInitial day (sent.erase s.primaryKey)).contains name = true ↔
      sent.contains name = true ∨ name ∈ s.initial.map Initial.column := by
  rw [contains_withInitial, Dict.contains_erase]
  simp [Ne.symm hname]

theorem mem_writable_iff {r : Record} {c : Column} :
    c ∈ s.writable r ↔ c ∈ s.columns ∧ c.name ≠ s.primaryKey ∧ r.contains c.name = true := by
  rw [writable, List.mem_filter, Bool.and_eq_true, decide_eq_true_eq]

/-- A column that is written gets what it should. -/
theorem gets_of_written (h : s.InitialLaws) {c : Column} (hc : c ∈ s.columns)
    (hkey : c.name ≠ s.primaryKey)
    (hcontains : (s.withInitial day (sent.erase s.primaryKey)).contains c.name = true) {p : Param}
    (hp : c.written ((s.withInitial day (sent.erase s.primaryKey)).valueOf c.name) = .ok p) :
    s.Gets day sent c p := by
  have hget := get?_withInitial_erase h day sent hkey
  rw [Record.valueOf] at hp
  rw [Dict.contains_eq_isSome] at hcontains
  unfold Gets
  cases hinitial : s.initial? c.name with
  | none =>
      rw [hget, hinitial] at hp hcontains
      obtain ⟨v, hv⟩ := Option.isSome_iff_exists.1 hcontains
      refine ⟨v, hv, ?_⟩
      rwa [hv] at hp
  | some i =>
      have hsuits := h.suits c hc i hinitial
      rw [hget, hinitial] at hp
      cases i with
      | text t =>
          have htext : c.written (.str t) = .ok p := hp
          rw [Column.written_text hsuits] at htext
          exact (Except.ok.inj htext).symm
      | bool b =>
          have hbool : c.written (.bool b) = .ok p := hp
          rw [Column.written_bool hsuits] at hbool
          exact (Except.ok.inj hbool).symm
      | today =>
          simp only [Option.elim_some, InitialValue.putOver, ← Record.isMissing_eq_all] at hp
          by_cases hmissing : sent.isMissing c.name = true
          · simp only [hmissing, if_true] at hp ⊢
            exact Column.eq_of_written_iso hsuits hp
          · simp only [if_neg hmissing] at hp ⊢
            exact hp

/-- What is written with the values of a new row makes a new row. -/
theorem newRow_of_written (hs : s ∈ catalogue)
    (hcolumns : ∀ name, sent.contains name = true → (s.column? name).isSome = true)
    (hrequired : ∀ name ∈ s.required,
      (s.withInitial day (sent.erase s.primaryKey)).isMissing name = false) {params : List Param}
    (hparams : List.Forall₂
      (fun c p => c.written ((s.withInitial day (sent.erase s.primaryKey)).valueOf c.name) = .ok p)
      (s.writable (s.withInitial day (sent.erase s.primaryKey))) params) :
    s.NewRow day sent (s.writable (s.withInitial day (sent.erase s.primaryKey))) params where
  sublist := List.filter_sublist
  nodup := nodup_map_name_writable hs _
  names name := by
    constructor
    · intro hname
      obtain ⟨c, hc, rfl⟩ := List.mem_map.1 hname
      obtain ⟨-, hkey, hin⟩ := mem_writable_iff.1 hc
      exact ⟨hkey, (contains_withInitial_erase day sent hkey).1 hin⟩
    · rintro ⟨hkey, hname⟩
      have hsome : (s.column? name).isSome = true := by
        rcases hname with hname | hname
        · exact hcolumns name hname
        · obtain ⟨i, hi, rfl⟩ := List.mem_map.1 hname
          exact ((initialLaws_of_mem_catalogue hs).settable i hi).2
      obtain ⟨c, hc, rfl⟩ := isSome_column?_iff.1 hsome
      exact List.mem_map_of_mem
        (mem_writable_iff.2 ⟨hc, hkey, (contains_withInitial_erase day sent hkey).2 hname⟩)
  gets := by
    have hin := (List.forall₂_and_left _ _).2 ⟨fun c hc => mem_writable_iff.1 hc, hparams⟩
    refine hin.imp ?_
    rintro c p ⟨⟨hc, hkey, hin⟩, hp⟩
    exact gets_of_written (initialLaws_of_mem_catalogue hs) hc hkey hin hp
  required name hname := by
    obtain ⟨hkey, hsome, -⟩ := (initialLaws_of_mem_catalogue hs).required name hname
    obtain ⟨v, hv, hnull⟩ := (Record.isMissing_eq_false_iff _ _).1 (hrequired name hname)
    obtain ⟨c, hc, rfl⟩ := isSome_column?_iff.1 hsome
    obtain ⟨p, hp, hwritten⟩ := exists_mem_zip hparams
      (mem_writable_iff.2 ⟨hc, hkey, Dict.contains_of_get?_eq_some hv⟩)
    refine ⟨(c, p), hp, rfl, ?_⟩
    rw [Record.valueOf, hv] at hwritten
    rw [Column.isNull_of_written hwritten]
    exact hnull

end NewRow

/-! ### Statements for new rows -/

variable {s : Schema} {attributes : Record} {day : Date}

/-- No required column is missing. -/
theorem checkRequired_eq_ok_iff {r : Record} :
    s.checkRequired r = .ok () ↔ ∀ name ∈ s.required, r.isMissing name = false := by
  have hnil : s.missingFrom r = [] ↔ ∀ name ∈ s.required, r.isMissing name = false := by
    simp [missingFrom, List.filter_eq_nil_iff]
  rw [← hnil, checkRequired]
  cases s.missingFrom r with
  | nil => exact iff_of_true rfl rfl
  | cons name names => exact iff_of_false nofun nofun

/-- What attributes name in the storage spelling. -/
theorem contains_toStorage_iff {name : String} :
    (Record.toStorage attributes).contains name = true ↔
      ∃ key ∈ attributes.keys, toStorageCasing key = name := by
  rw [Record.toStorage, Dict.contains_mapKeys, decide_eq_true_eq, List.mem_map]

/-- What is inserted when there is a statement: the record with the values of a new row is in order,
and every column gets its value. -/
theorem creation_eq_ok_iff_writable {st : Statement} :
    let full := s.withInitial day ((Record.toStorage attributes).erase s.primaryKey)
    s.creation day attributes = .ok st ↔
      s.checkAttributes ((Record.toStorage attributes).erase s.primaryKey) = .ok () ∧
      s.checkRequired full = .ok () ∧ s.checkAttributes full = .ok () ∧ s.writable full ≠ [] ∧
      ∃ params, List.Forall₂ (fun c p => c.written (full.valueOf c.name) = .ok p) (s.writable full)
        params ∧ st = inserting s (s.writable full) params := by
  intro full
  simp only [creation_eq_ok_iff, changes_eq_ok_iff, writeValues_eq_ok_iff_writable,
    insertRow_eq_ok_iff]
  constructor
  · rintro ⟨changes, values, ⟨rfl, hchanges⟩, hrequired, ⟨hfull, hvalues⟩, hne, rfl⟩
    have hlength := hvalues.length_eq
    refine ⟨hchanges, hrequired, hfull, ?_, values.map Prod.snd, ?_, ?_⟩
    · intro hnil
      rw [hnil] at hlength
      exact hne (List.length_eq_zero_iff.1 hlength.symm)
    · rw [List.forall₂_map_right_iff]
      exact hvalues.imp fun c v hv => hv.2
    · rw [map_eq_map_of_forall₂ hvalues fun c v hv => hv.1, ← hlength]
      rfl
  · rintro ⟨hchanges, hrequired, hfull, hne, params, hparams, rfl⟩
    -- names and parameters are put together again
    obtain ⟨values, hnames, hsnd, hvalues⟩ := exists_values hparams
    have hlength := hvalues.length_eq
    refine ⟨_, values, ⟨rfl, hchanges⟩, hrequired, ⟨hfull, hvalues⟩, ?_, ?_⟩
    · intro hnil
      rw [hnil] at hlength
      exact hne (List.length_eq_zero_iff.1 hlength)
    · rw [hnames, hsnd, ← hlength]
      rfl

/-- What is not the key and passes for an attribute is named in the storage spelling. -/
theorem isSome_column?_of_contains (hs : s ∈ catalogue)
    (hcheck : s.checkAttributes ((Record.toStorage attributes).erase s.primaryKey) = .ok ())
    {name : String} (hname : (Record.toStorage attributes).contains name = true) :
    (s.column? name).isSome = true := by
  by_cases hkey : name = s.primaryKey
  · rw [hkey]
    exact isSome_column?_primaryKey hs
  · refine checkAttributes_eq_ok_iff.1 hcheck name (Dict.contains_iff_mem_keys.1 ?_)
    rw [Dict.contains_erase, hname, Bool.and_true]
    simpa using Ne.symm hkey

/-- **A row is inserted with just the columns that are named or have a value in new rows, and each
of them gets its own.** -/
theorem creation_newRow (hs : s ∈ catalogue) {st : Statement}
    (h : s.creation day attributes = .ok st) :
    ∃ columns params, s.NewRow day (Record.toStorage attributes) columns params ∧
      st = inserting s columns params := by
  obtain ⟨hcheck, hrequired, -, -, params, hparams, rfl⟩ := creation_eq_ok_iff_writable.1 h
  refine ⟨_, params, newRow_of_written hs ?_ (checkRequired_eq_ok_iff.1 hrequired) hparams, rfl⟩
  exact fun name hname => isSome_column?_of_contains hs hcheck hname

/-- What a column of attributes holds before it is typed, if the server does not decide on it: what
was sent, or the day. -/
theorem get?_withInitial_of_open (hs : s ∈ catalogue) (day : Date) {c : Column}
    (hkey : c.name ≠ s.primaryKey)
    (hopen : s.initial? c.name = none ∨ s.initial? c.name = some .today) {sent : Record} :
    (s.withInitial day (sent.erase s.primaryKey)).get? c.name = sent.get? c.name ∨
      s.initial? c.name = some .today ∧ (sent.get? c.name).all Json.isNull = true ∧
        (s.withInitial day (sent.erase s.primaryKey)).get? c.name = some (.str day.iso) := by
  have hget := get?_withInitial_erase (initialLaws_of_mem_catalogue hs) day sent hkey
  rw [hget]
  rcases hopen with hnone | htoday
  · rw [hnone]
    exact Or.inl rfl
  · rw [htoday, Option.elim_some, InitialValue.putOver]
    by_cases hnull : (sent.get? c.name).all Json.isNull = true
    · exact Or.inr ⟨rfl, hnull, if_pos hnull⟩
    · exact Or.inl (if_neg hnull)

/-- What is required has no value in new rows, so it is missing just where it was not sent. -/
theorem isMissing_withInitial_of_required (hs : s ∈ catalogue) (day : Date) (sent : Record)
    {name : String} (hname : name ∈ s.required) :
    (s.withInitial day (sent.erase s.primaryKey)).isMissing name = sent.isMissing name := by
  have hlaws := initialLaws_of_mem_catalogue hs
  obtain ⟨hkey, -, hnone⟩ := hlaws.required name hname
  rw [Record.isMissing_eq_all, get?_withInitial_erase hlaws day sent hkey, hnone,
    Option.elim_none, ← Record.isMissing_eq_all]

/-- **Only attributes that are fit make a statement.** -/
theorem fit_of_creation (hs : s ∈ catalogue) {st : Statement}
    (h : s.creation day attributes = .ok st) : s.Fit attributes := by
  obtain ⟨hcheck, hrequired, -, -, params, hparams, -⟩ := creation_eq_ok_iff_writable.1 h
  refine ⟨?_, ?_, ?_⟩
  · intro key hkey
    exact isSome_column?_of_contains hs hcheck (contains_toStorage_iff.2 ⟨key, hkey, rfl⟩)
  · intro name hname
    rw [← isMissing_withInitial_of_required hs day _ hname]
    exact checkRequired_eq_ok_iff.1 hrequired name hname
  · intro c hc hkey hopen v hv
    rcases get?_withInitial_of_open hs day hkey hopen with hget | ⟨-, hnull, -⟩
    · have hcontains := Dict.contains_of_get?_eq_some hv
      obtain ⟨p, -, hp⟩ := exists_mem_zip hparams (mem_writable_iff.2
        ⟨hc, hkey, (contains_withInitial_erase day _ hkey).2 (Or.inl hcontains)⟩)
      rw [Record.valueOf, hget, hv, Option.getD_some] at hp
      exact ⟨p, hp⟩
    · -- a null value is written in any column
      rw [hv] at hnull
      exact ⟨_, Column.written_of_null hnull⟩

/-- The value of a column of fit attributes is one of the column. -/
theorem Fit.exists_written (hs : s ∈ catalogue) (h : s.Fit attributes) (hlow : 0 ≤ day.year)
    (hhigh : day.year ≤ 9999) {c : Column} (hc : c ∈ s.columns) (hkey : c.name ≠ s.primaryKey)
    (hin : (s.withInitial day ((Record.toStorage attributes).erase s.primaryKey)).contains c.name =
      true) :
    ∃ p, c.written ((s.withInitial day
      ((Record.toStorage attributes).erase s.primaryKey)).valueOf c.name) = .ok p := by
  have hlaws := initialLaws_of_mem_catalogue hs
  have hfixed := get?_withInitial_erase hlaws day (Record.toStorage attributes) hkey
  have hopen : s.initial? c.name = none ∨ s.initial? c.name = some .today →
      ∃ p, c.written ((s.withInitial day
        ((Record.toStorage attributes).erase s.primaryKey)).valueOf c.name) = .ok p := by
    intro hopen
    rw [Dict.contains_eq_isSome] at hin
    rw [Record.valueOf]
    rcases get?_withInitial_of_open hs day hkey hopen with hget | ⟨htoday, -, hget⟩
    · rw [hget] at hin ⊢
      obtain ⟨v, hv⟩ := Option.isSome_iff_exists.1 hin
      rw [hv]
      exact h.typed c hc hkey hopen v hv
    · rw [hget]
      exact ⟨_, Column.written_iso (hlaws.suits c hc _ htoday) hlow hhigh⟩
  cases hinitial : s.initial? c.name with
  | none => exact hopen (Or.inl hinitial)
  | some i =>
      have hsuits := hlaws.suits c hc i hinitial
      rw [hinitial, Option.elim_some] at hfixed
      cases i with
      | text t =>
          rw [Record.valueOf, hfixed]
          exact ⟨_, Column.written_text hsuits⟩
      | bool b =>
          rw [Record.valueOf, hfixed]
          exact ⟨_, Column.written_bool hsuits⟩
      | today => exact hopen (Or.inr hinitial)

/-- Fit attributes name columns. -/
theorem Fit.isSome_column? (h : s.Fit attributes) {name : String}
    (hname : ((Record.toStorage attributes).erase s.primaryKey).contains name = true) :
    (s.column? name).isSome = true := by
  rw [Dict.contains_erase, Bool.and_eq_true] at hname
  obtain ⟨key, hkey, rfl⟩ := contains_toStorage_iff.1 hname.2
  exact h.known key hkey

/-- So they pass for attributes, and with the values of a new row as well. -/
theorem Fit.checkAttributes_withInitial (hs : s ∈ catalogue) (h : s.Fit attributes) (day : Date) :
    s.checkAttributes ((Record.toStorage attributes).erase s.primaryKey) = .ok () ∧
      s.checkAttributes (s.withInitial day ((Record.toStorage attributes).erase s.primaryKey)) =
        .ok () := by
  refine ⟨checkAttributes_eq_ok_iff.2 fun name hname => ?_,
    checkAttributes_eq_ok_iff.2 fun name hname => ?_⟩
  · exact h.isSome_column? (Dict.contains_iff_mem_keys.2 hname)
  · have hcontains := Dict.contains_iff_mem_keys.2 hname
    rw [contains_withInitial, Bool.or_eq_true, decide_eq_true_eq] at hcontains
    rcases hcontains with hsent | hinitial
    · exact h.isSome_column? hsent
    · obtain ⟨i, hi, rfl⟩ := List.mem_map.1 hinitial
      exact ((initialLaws_of_mem_catalogue hs).settable i hi).2

/-- There is always a value for some column of a new row. -/
theorem writable_withInitial_ne_nil (hs : s ∈ catalogue) (day : Date) (sent : Record) :
    s.writable (s.withInitial day (sent.erase s.primaryKey)) ≠ [] := by
  have hlaws := initialLaws_of_mem_catalogue hs
  obtain ⟨i, hi⟩ := List.exists_mem_of_ne_nil _ hlaws.nonempty
  obtain ⟨hkey, hsome⟩ := hlaws.settable i hi
  obtain ⟨c, hc, hname⟩ := isSome_column?_iff.1 hsome
  rw [← hname] at hkey
  refine List.ne_nil_of_mem (mem_writable_iff.2 ⟨hc, hkey, ?_⟩)
  rw [contains_withInitial_erase day sent hkey, hname]
  exact Or.inr (List.mem_map_of_mem hi)

/-- **Attributes that are fit make a statement**, on every day of a year in four digits. -/
theorem creation_of_fit (hs : s ∈ catalogue) (h : s.Fit attributes) (hlow : 0 ≤ day.year)
    (hhigh : day.year ≤ 9999) : ∃ st, s.creation day attributes = .ok st := by
  obtain ⟨hsent, hfull⟩ := h.checkAttributes_withInitial hs day
  have hrequired : s.checkRequired
      (s.withInitial day ((Record.toStorage attributes).erase s.primaryKey)) = .ok () := by
    refine checkRequired_eq_ok_iff.2 fun name hname => ?_
    rw [isMissing_withInitial_of_required hs day _ hname]
    exact h.required name hname
  have hne := writable_withInitial_ne_nil hs day (Record.toStorage attributes)
  -- every value is one of its column, so none is refused
  rcases forall₂_ok_or_exists_error
    (fun c => c.written ((s.withInitial day
      ((Record.toStorage attributes).erase s.primaryKey)).valueOf c.name))
    (s.writable (s.withInitial day ((Record.toStorage attributes).erase s.primaryKey)))
    with ⟨params, hparams⟩ | ⟨c, hc, why, hwhy⟩
  · exact ⟨_, creation_eq_ok_iff_writable.2
      ⟨hsent, hrequired, hfull, hne, params, hparams, rfl⟩⟩
  · obtain ⟨hcolumn, hkey, hin⟩ := mem_writable_iff.1 hc
    obtain ⟨p, hp⟩ := h.exists_written hs hlow hhigh hcolumn hkey hin
    rw [hp] at hwhy
    cases hwhy

end Schema

end Circulation
