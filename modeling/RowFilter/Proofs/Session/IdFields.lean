import RowFilter.Proofs.Session.History

/-!
Which columns identify the rows of a table, after any requests: those that were said last of the
table, whatever the case of its name was, else those of the options that the session was created
with, else the standard ones. The entries of the options have no order of their own. They may be
found in another one after every request, and it makes no difference.
-/

namespace RowFilter

/-! ## The last setting -/

namespace Options

/-- What identifies the rows of a table after some settings, each a table's name and columns. -/
inductive FieldsAfter (o : Options) (settings : List (String × IdFields)) (table : String) :
    IdFields → Prop where
  /-- The columns of the last setting whose name matches. -/
  | last {before after : List (String × IdFields)} {name : String} {fields : IdFields}
      (hsettings : settings = before ++ (name, fields) :: after)
      (hname : Text.sameName name table = true)
      (hafter : ∀ later ∈ after, Text.sameName later.1 table = false) :
      FieldsAfter o settings table fields
  /-- If there is none, those of the entry whose name matches. -/
  | initial {name : String} {fields : IdFields}
      (hnone : ∀ setting ∈ settings, Text.sameName setting.1 table = false)
      (hentry : (name, fields) ∈ o.idFields) (hname : Text.sameName name table = true) :
      FieldsAfter o settings table fields
  /-- If there is no entry either, the standard ones. -/
  | standard (hnone : ∀ setting ∈ settings, Text.sameName setting.1 table = false)
      (hnoEntry : ∀ entry ∈ o.idFields, Text.sameName entry.1 table = false) :
      FieldsAfter o settings table .standard

variable {o : Options} {settings : List (String × IdFields)} {table name : String}
  {fields said : IdFields}

/-- Without settings the entries are looked up. -/
theorem fieldsAfter_nil (hd : o.Distinct) :
    o.FieldsAfter [] table fields ↔ o.idFieldsOf table = fields := by
  constructor
  · intro h
    cases h with
    | last hsettings => simp at hsettings
    | initial _ hentry hname => rw [idFieldsOf, (Text.find?_eq_some_iff hd).mpr ⟨hentry, hname⟩]
    | standard _ hnoEntry =>
      have hnone : o.idFields.find? (fun e => Text.sameName e.1 table) = none :=
        List.find?_eq_none.mpr fun entry hentry => by simp [hnoEntry entry hentry]
      rw [idFieldsOf, hnone]
  · rintro rfl
    rw [idFieldsOf]
    split
    · next hfind =>
      obtain ⟨hentry, hname⟩ := (Text.find?_eq_some_iff hd).mp hfind
      exact .initial (List.forall_mem_nil _) hentry hname
    · next hfind => exact .standard (List.forall_mem_nil _) (by simpa using hfind)

/-- One more setting counts for the tables that go by its name. -/
theorem fieldsAfter_concat_same (hname : Text.sameName name table = true) :
    o.FieldsAfter (settings ++ [(name, said)]) table fields ↔ said = fields := by
  have hmem : (name, said) ∈ settings ++ [(name, said)] := by simp
  constructor
  · intro h
    cases h with
    | last hsettings _ hafter =>
      rcases append_singleton_eq_append_cons.mp hsettings with ⟨-, -, heq⟩ | ⟨rest, rfl, -⟩
      · exact congrArg Prod.snd heq
      · have hother := hafter (name, said) (by simp)
        exact absurd hname (by simp [hother])
    | initial hnone | standard hnone => exact absurd hname (by simp [hnone _ hmem])
  · rintro rfl
    exact .last rfl hname (List.forall_mem_nil _)

/-- For other tables it makes no difference. -/
theorem fieldsAfter_concat_other (hname : Text.sameName name table = false) :
    o.FieldsAfter (settings ++ [(name, said)]) table fields ↔
      o.FieldsAfter settings table fields := by
  have hmore (rest : List (String × IdFields)) :
      (∀ setting ∈ rest ++ [(name, said)], Text.sameName setting.1 table = false) ↔
        ∀ setting ∈ rest, Text.sameName setting.1 table = false := by
    simp [or_imp, forall_and, hname]
  constructor
  · intro h
    cases h with
    | last hsettings hmatch hafter =>
      rcases append_singleton_eq_append_cons.mp hsettings with ⟨-, -, heq⟩ | ⟨rest, rfl, hrest⟩
      · cases heq
        exact absurd hmatch (by simp [hname])
      · exact .last hrest hmatch ((hmore rest).mp hafter)
    | initial hnone hentry hmatch => exact .initial ((hmore settings).mp hnone) hentry hmatch
    | standard hnone hnoEntry => exact .standard ((hmore settings).mp hnone) hnoEntry
  · intro h
    cases h with
    | last hsettings hmatch hafter =>
      exact .last (append_singleton_eq_append_cons.mpr (.inr ⟨_, rfl, hsettings⟩)) hmatch
        ((hmore _).mpr hafter)
    | initial hnone hentry hmatch => exact .initial ((hmore settings).mpr hnone) hentry hmatch
    | standard hnone hnoEntry => exact .standard ((hmore settings).mpr hnone) hnoEntry

/-- What is said of a table is found under every name that matches, and nothing else changes. -/
theorem idFieldsOf_setIdFields (o : Options) (name table : String) (fields : IdFields) :
    (o.setIdFields name fields).idFieldsOf table =
      if Text.sameName name table then fields else o.idFieldsOf table := by
  simp only [idFieldsOf, setIdFields, List.find?_cons]
  by_cases hname : Text.sameName name table = true
  · rw [hname, if_pos rfl]
  · have hothers : (o.idFields.filter fun e => !Text.sameName e.1 name).find?
        (fun e => Text.sameName e.1 table) =
          o.idFields.find? fun e => Text.sameName e.1 table := by
      rw [List.find?_filter]
      congr 1
      funext entry
      -- what is left out goes by the name of another table
      cases hentry : Text.sameName entry.1 table with
      | false => simp
      | true =>
        rw [Text.sameName_comm, Text.sameName_congr hentry]
        simp [hname]
    rw [if_neg hname, hothers]
    simp only [hname]

end Options

namespace Session

/-! ## Requests -/

/-- What a request says of a table. -/
def Request.setting? : Request → Option (String × IdFields)
  | .setIdFields table fields => some (table, fields)
  | _ => none

/-- The sessions that requests lead to. The entries about tables may come in any order at first, and
in another one after each request. -/
inductive Reaches (s : Session) : List Request → Session → Prop where
  | created {o : Options} (ho : s.options.Reordered o) : Reaches s [] { s with options := o }
  | served {requests : List Request} {s' : Session} {o : Options} (h : Reaches s requests s')
      (request : Request) (ho : (s'.serve request).options.Reordered o) :
      Reaches s (requests ++ [request]) { s'.serve request with options := o }

variable {s s' : Session} {requests : List Request}

theorem idFieldsOf_serve (s : Session) (request : Request) (table : String) :
    (s.serve request).options.idFieldsOf table =
      match request.setting? with
      | some (name, fields) =>
        if Text.sameName name table then fields else s.options.idFieldsOf table
      | none => s.options.idFieldsOf table := by
  cases request with
  | setIdFields name fields => exact s.options.idFieldsOf_setIdFields name table fields
  | run clock =>
    obtain ⟨tracked, trees, hsession⟩ := s.run_session clock
    show (s.run clock).session.options.idFieldsOf table = _
    rw [hsession]
    rfl
  | _ => rfl

/-- The order in which the entries are listed is one that they may come in. -/
theorem reaches_serveAll (s : Session) (requests : List Request) :
    Reaches s requests (s.serveAll requests) := by
  induction requests using List.reverseRecOn with
  | nil => exact .created (.refl _)
  | append_singleton requests request ih =>
    rw [serveAll, List.foldl_append]
    exact ih.served request (.refl _)

theorem Reaches.distinct (h : Reaches s requests s') (hd : s.options.Distinct) :
    s'.options.Distinct := by
  induction h with
  | created ho => exact ho.distinct hd
  | @served _ s' _ _ request ho ih =>
    have hkeeps : Keeps s'.expression s' := ⟨rfl, ih⟩
    exact ho.distinct (hkeeps.serve request).distinct

/-- A table has the columns that were said of it last. -/
theorem Reaches.idFieldsOf_eq_iff (h : Reaches s requests s') (hd : s.options.Distinct)
    {table : String} {fields : IdFields} : s'.options.idFieldsOf table = fields ↔
      s.options.FieldsAfter (requests.filterMap Request.setting?) table fields := by
  induction h generalizing fields with
  | created ho => rw [← ho.idFieldsOf hd, List.filterMap_nil, Options.fieldsAfter_nil hd]
  | @served requests s' o h request ho ih =>
    have hkeeps : Keeps s'.expression s' := ⟨rfl, h.distinct hd⟩
    rw [← ho.idFieldsOf (hkeeps.serve request).distinct, idFieldsOf_serve, List.filterMap_append,
      List.filterMap_cons]
    cases request.setting? with
    | none => rw [List.filterMap_nil, List.append_nil, ← ih]
    | some setting =>
      obtain ⟨name, said⟩ := setting
      dsimp only [List.filterMap_nil]
      cases hname : Text.sameName name table with
      | true => rw [if_pos rfl, Options.fieldsAfter_concat_same hname]
      | false => rw [if_neg Bool.false_ne_true, ih, Options.fieldsAfter_concat_other hname]

/-- After any requests no two entries are about the same table, provided that there were no such two
at first. The columns of a table are those of the last setting whose name matches, else those of the
first entries, else the standard ones. In which order the entries come, then or at any time before,
makes no difference. -/
theorem idFieldsOf_last_setting (hd : s.options.Distinct) (h : Reaches s requests s') :
    s'.options.Distinct ∧
      (∀ table fields, s'.options.idFieldsOf table = fields ↔
        s.options.FieldsAfter (requests.filterMap Request.setting?) table fields) ∧
      ∀ o, s'.options.Reordered o → ∀ table, o.idFieldsOf table = s'.options.idFieldsOf table := by
  refine ⟨h.distinct hd, fun table fields => h.idFieldsOf_eq_iff hd, fun o ho table => ?_⟩
  exact (ho.idFieldsOf (h.distinct hd) table).symm

/-- Two tables whose rows are identified by columns of their own. -/
def plant : Session :=
  create "A:1" { Options.standard with
    idFields := [("Sensors", ⟨"Guid", "ID", "Tag"⟩), ("Meters", ⟨"MeterID", "Key", "Tag"⟩)] }

/-- The meters are spoken of twice, in two spellings, with a run in between. -/
def renamings : List Request :=
  [.setIdFields "METERS" ⟨"Signal", "Key", "Tag"⟩, .run .millennium,
    .setIdFields "meters" ⟨"Guid", "Key", "Tag"⟩, .setIdFields "Pumps" ⟨"PumpID", "ID", "Tag"⟩]

/-- The last setting of the meters counts, the sensors keep their columns, and valves have the
standard ones, also if the entries come the other way round. -/
theorem idFieldsOf_renamed_meters :
    plant.options.Distinct ∧ Reaches plant renamings (plant.serveAll renamings) ∧
      (plant.serveAll renamings).options.Distinct ∧
      (plant.serveAll renamings).options.idFieldsOf "Meters" = ⟨"Guid", "Key", "Tag"⟩ ∧
      (plant.serveAll renamings).options.idFieldsOf "SENSORS" = ⟨"Guid", "ID", "Tag"⟩ ∧
      (plant.serveAll renamings).options.idFieldsOf "Valves" = .standard ∧
      ∃ o, (plant.serveAll renamings).options.Reordered o ∧
        o.idFields = (plant.serveAll renamings).options.idFields.reverse ∧
        o.idFieldsOf "Meters" = ⟨"Guid", "Key", "Tag"⟩ := by
  have hdistinct : plant.options.Distinct := by
    rw [Options.Distinct]
    decide +kernel
  have hsettings : renamings.filterMap Request.setting? =
      [("METERS", ⟨"Signal", "Key", "Tag"⟩)] ++ ("meters", ⟨"Guid", "Key", "Tag"⟩) ::
        [("Pumps", ⟨"PumpID", "ID", "Tag"⟩)] := rfl
  have hreaches := reaches_serveAll plant renamings
  obtain ⟨hstays, hfields, horder⟩ := idFieldsOf_last_setting hdistinct hreaches
  have hmeters := (hfields "Meters" ⟨"Guid", "Key", "Tag"⟩).mpr
    (.last hsettings (by decide +kernel) (by decide +kernel))
  have hsensors := (hfields "SENSORS" ⟨"Guid", "ID", "Tag"⟩).mpr
    (.initial (by decide +kernel) List.mem_cons_self (by decide +kernel))
  have hvalves := (hfields "Valves" .standard).mpr
    (.standard (by decide +kernel) (by decide +kernel))
  have hreversed : (plant.serveAll renamings).options.Reordered
      { (plant.serveAll renamings).options with
        idFields := (plant.serveAll renamings).options.idFields.reverse } :=
    ⟨rfl, rfl, rfl, rfl, (List.reverse_perm _).symm⟩
  exact ⟨hdistinct, hreaches, hstays, hmeters, hsensors, hvalves, _, hreversed, rfl,
    (horder _ hreversed "Meters").trans hmeters⟩

end Session

end RowFilter
