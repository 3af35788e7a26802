import ProtoApi.Proofs.Build.Documentation
import ProtoApi.Proofs.Build.Locations
import ProtoApi.Proofs.Build.Registered

namespace ProtoApi

/-!
# Comments reach the declarations that they stand at

* `FileDecl.documentationAt` — the documentation that the comments at a path give;
* `latestDocumentation_documented` — it is what stays of the entity at the path;
* `FileDecl.CommentsAttached` — what attaching the comments of a file may do: each entity of the
  file gets the documentation of its own path, and nothing else changes;
* `attachComments_commentsAttached` — so it is, once the types are registered and the services of
  the file are built.
-/

/-! ### Paths and documentation -/

namespace FileDecl

variable (f : FileDecl)

/-- The documentation that the last comment at a path gives, or else the one from before. -/
def documentationAt (path : List Int) (before : String) : String :=
  ((f.comments.filter fun c => c.1.map Int32.toInt = path).getLast?.map fun c =>
    trimComment c.2).getD before

variable {f}

/-- The comments that document what stands at a path are the comments at the path. -/
theorem filter_documented (hf : f.Distinct) {path : List Int} {t : DocTarget}
    (ht : f.Locates path t) :
    f.documented.filter (·.1 = t)
      = (f.comments.filter fun c => c.1.map Int32.toInt = path).map fun c =>
        (t, trimComment c.2) := by
  unfold documented
  induction f.comments with
  | nil => rfl
  | cons c rest ih =>
    have hiff : f.resolve c.1 = .target t ↔ c.1.map Int32.toInt = path := by
      rw [resolve_eq_target_iff]
      constructor
      · exact fun h => locates_unique hf h ht rfl
      · exact fun h => h ▸ ht
    by_cases hc : c.1.map Int32.toInt = path
    · rw [List.filterMap_cons, List.filter_cons, if_pos (decide_eq_true hc), List.map_cons, ← ih,
        hiff.2 hc]
      simp
    · rw [List.filterMap_cons, List.filter_cons, if_neg (by simpa using hc), ← ih]
      -- The comment documents something else, or nothing.
      cases hr : f.resolve c.1 with
      | target t' =>
        have hne : t' ≠ t := fun h => hc (hiff.1 (h ▸ hr))
        simp [hne]
      | ignored => rfl
      | unknown => rfl

theorem latestDocumentation_documented (hf : f.Distinct) {path : List Int} {t : DocTarget}
    (ht : f.Locates path t) : latestDocumentation f.documented t = f.documentationAt path := by
  funext before
  unfold latestDocumentation documentationAt
  rw [filter_documented hf ht, List.getLast?_map, Option.map_map]
  rfl

variable (f)

/-- A message with the documentation at its own path, and at those of its fields and of its
    oneofs. -/
def documentMessage (path : List Int) (d : DeclaredMessage) (m : Message) : Message :=
  { m with
    documentation := f.documentationAt path m.documentation
    fields := m.fields.mapIdx fun i x =>
      { x with documentation := f.documentationAt (path ++ [2, (i : Int)]) x.documentation }
    oneOfs := m.oneOfs.map fun o =>
      let position := d.decl.oneofs.findIdx (·.name = o.name)
      { o with
        documentation := f.documentationAt (path ++ [8, (position : Int)]) o.documentation } }

/-- An enum with the documentation at its own path, and at those of its values. -/
def documentEnum (path : List Int) (e : EnumType) : EnumType :=
  { e with
    documentation := f.documentationAt path e.documentation
    values := e.values.mapIdx fun i v =>
      { v with documentation := f.documentationAt (path ++ [2, (i : Int)]) v.documentation } }

/-- What attaching the comments of a file does: each entity of the file gets the documentation that
    stands at its own path, and nothing else changes. -/
structure CommentsAttached (before after : Context) : Prop where
  messagePaths : ∀ d ∈ f.declaredMessages, ∃ path, f.LocatesMessage path d
  messages : ∀ path d, f.LocatesMessage path d → ∃ m, before.registry.message? d.id = some m ∧
    m.fields.map (·.name) = d.decl.fields.map (·.name) ∧
    (m.oneOfs.map (·.name)).Sublist (d.decl.oneofs.map (·.name)) ∧
    after.registry.message? d.id = some (f.documentMessage path d m)
  enumPaths : ∀ e ∈ f.declaredEnums, ∃ path, f.LocatesEnum path e
  enums : ∀ path e, f.LocatesEnum path e → ∃ x, before.registry.enum? e.id = some x ∧
    x.values.map (·.name) = e.decl.values.map (·.name) ∧
    after.registry.enum? e.id = some (f.documentEnum path x)
  services : ∀ (i : Nat) (s : ServiceDecl), f.services[i]? = some s →
    ∃ x, before.registry.service? (f.serviceId s) = some x ∧
      after.registry.service? (f.serviceId s)
        = some { x with documentation := f.documentationAt [6, (i : Int)] x.documentation }
  methods : ∀ (i j : Nat) (s : ServiceDecl) (m : MethodDecl), f.services[i]? = some s →
    s.methods[j]? = some m →
    after.registry.method? (childId (f.serviceId s) m.name)
      = (before.registry.method? (childId (f.serviceId s) m.name)).map fun x =>
        { x with documentation := f.documentationAt [6, (i : Int), 2, (j : Int)] x.documentation }
  otherMessages : ∀ id, ¬ f.Declares (.message id) →
      after.registry.message? id = before.registry.message? id
  otherEnums : ∀ id, ¬ f.Declares (.enum id) → after.registry.enum? id = before.registry.enum? id
  otherServices : ∀ id, ¬ f.Declares (.service id) →
      after.registry.service? id = before.registry.service? id
  otherMethods : ∀ id, ¬ f.Declares (.method id) →
      after.registry.method? id = before.registry.method? id
  diagnostics : after.diagnostics = before.diagnostics ++ f.lostComments
  uuid4Fields : after.uuid4Fields = before.uuid4Fields

end FileDecl

/-! ### Entities with their comments -/

section Reworded

variable {f : FileDecl} (hf : f.Distinct) {path : List Int}
include hf

/-- A message gets the documentation of its path, and its fields and oneofs get that of theirs. -/
theorem reworded_message {d : DeclaredMessage} (hd : f.LocatesMessage path d) {m : Message}
    (hfields : m.fields.map (·.name) = d.decl.fields.map (·.name))
    (honeOfs : (m.oneOfs.map (·.name)).Sublist (d.decl.oneofs.map (·.name))) :
    m.reworded f.documented d.id = f.documentMessage path d m := by
  have hfield : ∀ (i : Nat) (x : Field), m.fields[i]? = some x →
      latestDocumentation f.documented (.field d.id x.name)
        = f.documentationAt (path ++ [2, (i : Int)]) := by
    intro i x hx
    -- The declaration of the field has the same position.
    have hname : (d.decl.fields.map (·.name))[i]? = some x.name := by
      rw [← hfields, List.getElem?_map, hx]
      rfl
    rw [List.getElem?_map] at hname
    obtain ⟨decl, hdecl, hname⟩ := Option.map_eq_some_iff.1 hname
    rw [← hname]
    exact FileDecl.latestDocumentation_documented hf (.field hd hdecl)
  have honeOf : ∀ o ∈ m.oneOfs, latestDocumentation f.documented (.oneOf d.id o.name)
      = f.documentationAt (path ++ [8, (d.decl.oneofs.findIdx (·.name = o.name) : Int)]) := by
    intro o ho
    obtain ⟨decl, hdecl, hname⟩ := List.mem_map.1 (honeOfs.subset (List.mem_map_of_mem ho))
    have hlt : d.decl.oneofs.findIdx (·.name = o.name) < d.decl.oneofs.length :=
      List.findIdx_lt_length_of_exists ⟨decl, hdecl, decide_eq_true hname⟩
    have hfound := List.getElem?_eq_getElem hlt
    have hname' := of_decide_eq_true (List.findIdx_getElem (w := hlt))
    have hlatest := FileDecl.latestDocumentation_documented hf (.oneOf hd hfound)
    rw [hname'] at hlatest
    exact hlatest
  unfold Message.reworded FileDecl.documentMessage
  rw [FileDecl.latestDocumentation_documented hf (.message hd)]
  congr 1
  · refine List.ext_getElem? fun i => ?_
    rw [List.getElem?_map, List.getElem?_mapIdx]
    cases hi : m.fields[i]? with
    | none => rfl
    | some x => rw [Option.map_some, Option.map_some, hfield i x hi]
  · refine List.map_congr_left fun o ho => ?_
    rw [honeOf o ho]

/-- An enum gets the documentation of its path, and its values get that of theirs. -/
theorem reworded_enum {e : DeclaredEnum} (he : f.LocatesEnum path e) {x : EnumType}
    (hvalues : x.values.map (·.name) = e.decl.values.map (·.name)) :
    x.reworded f.documented e.id = f.documentEnum path x := by
  have hlength : x.values.length = e.decl.values.length := by
    rw [← List.length_map (f := (·.name)), hvalues, List.length_map]
  unfold EnumType.reworded FileDecl.documentEnum
  rw [FileDecl.latestDocumentation_documented hf (.enum he)]
  congr 1
  refine List.ext_getElem? fun i => ?_
  rw [List.getElem?_mapIdx, List.getElem?_mapIdx]
  cases hi : x.values[i]? with
  | none => rfl
  | some v =>
    have hlt : i < e.decl.values.length := hlength ▸ (List.getElem?_eq_some_iff.1 hi).1
    rw [Option.map_some, Option.map_some,
      FileDecl.latestDocumentation_documented hf (.enumValue he hlt)]

end Reworded

/-! ### The comments of a whole file -/

/-- Once types are registered and the services of a file are built, its comments reach the
    declarations that they stand at and nothing else. -/
theorem attachComments_commentsAttached (config? : Option ServiceConfig) {start ctx : Context}
    {files : List FileDecl} {file : FileDecl} (hfile : file ∈ files)
    (hmessages : ((files.flatMap FileDecl.declaredMessages).map (·.id)).Nodup)
    (henums : ((files.flatMap FileDecl.declaredEnums).map (·.id)).Nodup) (hf : file.Distinct)
    (hr : registerTypes start files = (ctx, none)) :
    file.CommentsAttached (file.services.foldl (processService config? file) ctx)
      (attachComments (file.services.foldl (processService config? file) ctx) file) := by
  rw [foldl_processService_eq config? (.refl ctx.registry), attachComments_eq]
  -- A comment whose target belongs to no declaration of the file would have no location.
  have hothers : ∀ o : Owner, ¬ file.Declares o → ∀ d ∈ file.documented, d.1.owner ≠ o := by
    intro o ho d hd howner
    obtain ⟨path, hpath⟩ := exists_locates_of_mem_documented hd
    exact ho (howner ▸ declares_of_locates hpath)
  constructor
  case messagePaths =>
    exact fun d hd => file.mem_declaredMessages_iff.1 hd
  case messages =>
    intro path d hd
    have hmem : d ∈ files.flatMap FileDecl.declaredMessages :=
      List.mem_flatMap.2 ⟨file, hfile, mem_declaredMessages_of_locates hd⟩
    obtain ⟨r, hm⟩ := message?_registerTypes_of_nodup hr hmessages hmem
    -- The registered message has the declared fields and oneofs, so a name finds at most one of
    -- each.
    have hfields := names_fields_complete r (fault?_eq_none hr hmem) d.shell
    have honeOfs := names_oneOfs_complete r d d.shell
    refine ⟨d.complete r d.shell, hm, hfields, honeOfs, ?_⟩
    have hmem' := mem_declaredMessages_of_locates hd
    rw [Registry.message?_withDocumentation]
    show (ctx.registry.message? d.id).map _ = _
    rw [hm, Option.map_some,
      foldl_onMessage _ _ (hfields ▸ hf.fields d hmem') (honeOfs.nodup (hf.oneofs d hmem')),
      reworded_message hf hd hfields honeOfs]
  case enumPaths =>
    exact fun e he => file.mem_declaredEnums_iff.1 he
  case enums =>
    intro path e he
    have hx := enum?_registerTypes_of_nodup hr henums
      (List.mem_flatMap.2 ⟨file, hfile, mem_declaredEnums_of_locates he⟩)
    have hvalues : e.entity.values.map (·.name) = e.decl.values.map (·.name) := by
      unfold DeclaredEnum.entity
      rw [List.map_map]
      rfl
    refine ⟨e.entity, hx, hvalues, ?_⟩
    rw [Registry.enum?_withDocumentation]
    show (ctx.registry.enum? e.id).map _ = _
    rw [hx, Option.map_some, foldl_onEnum, reworded_enum hf he hvalues]
  case services =>
    intro i s hs
    have hmem : (⟨file.serviceId s, file.package, s⟩ : DeclaredService) ∈ file.declaredServices :=
      List.mem_map.2 ⟨s, List.mem_of_getElem? hs, rfl⟩
    have hids : (file.declaredServices.map (·.id)).Nodup := by
      unfold FileDecl.declaredServices
      rw [List.map_map]
      exact hf.services
    -- Services are registered after the types, so it is the built one that has to be found.
    have hx : (ctx.withServices config? ctx.registry file.declaredServices).registry.service?
        (file.serviceId s)
        = some _ := service?_withServices hids hmem ctx
    refine ⟨_, hx, ?_⟩
    rw [Registry.service?_withDocumentation, hx, Option.map_some, foldl_onService,
      FileDecl.latestDocumentation_documented hf (.service hs)]
  case methods =>
    intro i j s m hs hm
    rw [Registry.method?_withDocumentation]
    simp only [foldl_onMethod, FileDecl.latestDocumentation_documented hf (.method hs hm)]
  case otherMessages => exact fun id hid =>
    Registry.message?_withDocumentation_of_ne _ (hothers _ hid)
  case otherEnums => exact fun id hid => Registry.enum?_withDocumentation_of_ne _ (hothers _ hid)
  case otherServices => exact fun id hid =>
    Registry.service?_withDocumentation_of_ne _ (hothers _ hid)
  case otherMethods => exact fun id hid =>
    Registry.method?_withDocumentation_of_ne _ (hothers _ hid)
  case diagnostics => rfl
  case uuid4Fields => rfl

/-- A file with a message inside another one, a oneof without members and a method that cannot be
    built, all of them with comments, and a comment that leads nowhere. -/
def journalFile : FileDecl where
  name? := "journal.proto"
  package? := "journal"
  messages := [
    { name? := "Entry"
      fields := [{ name? := "text", kind? := some (.name "TYPE_STRING") }]
      nested := [{ name? := "Line" }]
      oneofs := [{ name? := "unused" }] }]
  services := [
    { name? := "Journal"
      methods :=
        [{ name? := "Write", inputType? := ".journal.Entry", outputType? := ".journal.Entry" }] }]
  sourceInfo? := some [
    ⟨[4, 0], some " An entry.\n"⟩,
    ⟨[4, 0, 3, 0], some " A line.\n"⟩,
    ⟨[4, 0, 3, 1], some " No line.\n"⟩,
    ⟨[4, 0, 8, 0], some " Not used.\n"⟩,
    ⟨[6, 0, 2, 0], some " Writes.\n"⟩]

/-- The comments of the file reach its messages and its service, and one of them is reported. -/
theorem journalFile_commentsAttached :
    journalFile ∈ [journalFile] ∧
      (([journalFile].flatMap FileDecl.declaredMessages).map (·.id)).Nodup ∧
      (([journalFile].flatMap FileDecl.declaredEnums).map (·.id)).Nodup ∧ journalFile.Distinct ∧
      registerTypes {} [journalFile] = ((registerTypes {} [journalFile]).1, none) ∧
      journalFile.CommentsAttached
        (journalFile.services.foldl (processService none journalFile)
          (registerTypes {} [journalFile]).1)
        (attachComments
          (journalFile.services.foldl (processService none journalFile)
            (registerTypes {} [journalFile]).1)
          journalFile) := by
  have hfile : journalFile ∈ [journalFile] := List.mem_singleton.2 rfl
  have hmessages : (([journalFile].flatMap FileDecl.declaredMessages).map (·.id)).Nodup := by
    decide +kernel
  have henums : (([journalFile].flatMap FileDecl.declaredEnums).map (·.id)).Nodup := by
    decide +kernel
  -- The methods are looked at one by one; all other names can be compared at once.
  have hplain : ∀ s ∈ journalFile.services, s.Plain := by
    intro s hs
    obtain rfl := List.mem_singleton.1 hs
    exact ⟨by decide +kernel, by decide +kernel⟩
  have hf : journalFile.Distinct :=
    { messages := by decide +kernel
      enums := by decide +kernel
      services := by decide +kernel
      fields := by decide +kernel
      oneofs := by decide +kernel
      methods := hplain }
  have hr : registerTypes {} [journalFile] = ((registerTypes {} [journalFile]).1, none) :=
    Prod.ext rfl rfl
  exact ⟨hfile, hmessages, henums, hf, hr,
    attachComments_commentsAttached none hfile hmessages henums hf hr⟩

end ProtoApi
