import ProtoApi.Build.Pipeline
import ProtoApi.Proofs.Build.Locations
import ProtoApi.Proofs.Spelling.Registration

namespace ProtoApi

/-!
# Builds of sets that are alike

* `MethodDecl.Alike.buildMethod_eq`, `processService_congr` — the methods and services of files that
  are alike;
* `Composition.compose_congr` — the methods that are taken over from mixins;
* `FileDecl.Alike.resolve_eq`, `attachComments_congr` — what the comments lead to;
* `buildApi_congr` — all in all, sets that are alike make the same model and the same diagnostics,
  or fail with the same error.
-/

/-! ### Methods and services -/

/-- A method is built in the same way, or fails with the same error. -/
theorem MethodDecl.Alike.buildMethod_eq {decl decl' : MethodDecl} (h : decl.Alike decl')
    (r : Registry) (id package : String) (rule? : Option HttpRule) :
    buildMethod r decl id package rule? = buildMethod r decl' id package rule? := by
  obtain ⟨options?, hoptions, rfl⟩ := h
  unfold buildMethod
  rw [httpRule?_congr hoptions, routing_congr hoptions, operationInfo?_congr hoptions,
    isDeprecated_congr hoptions]
  rfl

/-- The methods of services that are alike are registered alike, and the same ones are dropped. -/
theorem addMethods_congr {methods methods' : List MethodDecl}
    (h : List.Forall₂ MethodDecl.Alike methods methods') (config? : Option ServiceConfig)
    (package serviceId : String) (ctx : Context) :
    addMethods config? package serviceId ctx methods
      = addMethods config? package serviceId ctx methods' := by
  induction h generalizing ctx with
  | nil => rfl
  | @cons m m' rest rest' hm _ ih =>
    unfold addMethods
    simp only [hm.name_eq, hm.buildMethod_eq, ih]

/-- Of the file only the package matters, which is part of the ids. -/
theorem processService_congr {f f' : FileDecl} (hf : f.package = f'.package) {s s' : ServiceDecl}
    (h : s.Alike s') (config? : Option ServiceConfig) (ctx : Context) :
    processService config? f ctx s = processService config? f' ctx s' := by
  obtain ⟨methods, options?, hmethods, hoptions, rfl⟩ := h
  unfold processService FileDecl.serviceId
  simp only [hf, addMethods_congr hmethods, defaultHost_congr hoptions, isDeprecated_congr hoptions]
  rfl

/-! ### What a file contributes -/

section Files

variable {f f' : FileDecl}

/-- The package is no option. -/
theorem FileDecl.Alike.package_eq (h : f.Alike f') : f.package = f'.package := by
  obtain ⟨messages, enums, services, options?, -, -, -, rfl⟩ := h
  rfl

/-- The types that a file adds to the model are listed by ids, and these stay the same. -/
theorem includeTypes_congr (h : f.Alike f') (ctx : Context) (api : Api) :
    includeTypes ctx api f = includeTypes ctx api f' := by
  obtain ⟨messages, enums, services, options?, hmessages, henums, -, rfl⟩ := h
  have hmessageIds := map_eq_of_forall₂ hmessages fun m m' hm =>
    congrArg (topLevelId f.package) hm.name_eq
  have henumIds :=
    map_eq_of_forall₂ henums fun e e' he => congrArg (topLevelId f.package) he.name_eq
  unfold includeTypes
  rw [hmessageIds, henumIds]
  rfl

/-- So are its services. -/
theorem includeServices_congr (h : f.Alike f') (config? : Option ServiceConfig) (ctx : Context)
    (api : Api) : includeServices config? ctx api f = includeServices config? ctx api f' := by
  have hpackage := h.package_eq
  obtain ⟨messages, enums, services, options?, -, -, hservices, rfl⟩ := h
  have hfold := foldl_eq_of_forall₂ hservices (fun ctx s s' hs =>
    processService_congr hpackage hs config? ctx) ctx
  have hids := map_eq_of_forall₂ hservices fun s s' hs => congrArg (topLevelId f.package) hs.name_eq
  unfold includeServices
  rw [hfold]
  exact congrArg (fun ids => (_, { api with services := api.services ++ ids })) hids

theorem includeFile_congr (h : f.Alike f') (config? : Option ServiceConfig)
    (state : Context × Api) : includeFile config? state f = includeFile config? state f' := by
  unfold includeFile
  simp only [includeTypes_congr h, includeServices_congr h]

/-- The types of methods decide whether operations are started, and they are not options. -/
theorem startsOperations_congr {files files' : List FileDecl}
    (h : List.Forall₂ FileDecl.Alike files files') :
    startsOperations files = startsOperations files' := by
  refine any_eq_of_forall₂ h fun f f' hf => ?_
  obtain ⟨messages, enums, services, options?, -, -, hservices, rfl⟩ := hf
  refine any_eq_of_forall₂ hservices fun s s' hs => ?_
  obtain ⟨methods, options?, hmethods, -, rfl⟩ := hs
  refine any_eq_of_forall₂ hmethods fun m m' hm => ?_
  obtain ⟨options?, -, rfl⟩ := hm
  rfl

end Files

/-! ### Mixin methods -/

/-- The service of a mixin is found in both lists of files, or in neither. -/
theorem Mixin.service?_rel {sources sources' : List FileDecl}
    (h : List.Forall₂ FileDecl.Alike sources sources') (m : Mixin) :
    Option.Rel ServiceDecl.Alike (m.service? sources) (m.service? sources') := by
  have hfile : Option.Rel FileDecl.Alike (sources.find? (·.name = m.file))
      (sources'.find? (·.name = m.file)) :=
    find?_of_forall₂ h fun f f' hf => by rw [hf.name_eq]
  unfold Mixin.service?
  generalize sources.find? (·.name = m.file) = f? at hfile ⊢
  generalize sources'.find? (·.name = m.file) = f?' at hfile ⊢
  cases hfile with
  | none => exact .none
  | some hf =>
    obtain ⟨messages, enums, services, options?, -, -, hservices, rfl⟩ := hf
    exact find?_of_forall₂ hservices fun s s' hs => by rw [hs.name_eq]

namespace Composition

/-- A mixin method is taken over or left out alike. -/
theorem takeOver_congr {decl decl' : MethodDecl} (h : decl.Alike decl') (plan : MixinPlan)
    {sources sources' : List FileDecl} (config? : Option ServiceConfig) (serviceId package : String)
    (m : Mixin) (ctx : Context) :
    takeOver { plan, sources, config? } serviceId package m ctx decl
      = takeOver { plan, sources := sources', config? } serviceId package m ctx decl' := by
  unfold takeOver build
  simp only [h.name_eq, h.buildMethod_eq]

/-- The same methods are taken over from sources that are alike. -/
theorem compose_congr {sources sources' : List FileDecl}
    (h : List.Forall₂ FileDecl.Alike sources sources') (plan : MixinPlan)
    (config? : Option ServiceConfig) (ctx : Context) (serviceIds : List String) :
    compose { plan, sources, config? } ctx serviceIds
      = compose { plan, sources := sources', config? } ctx serviceIds := by
  have hall : ∀ serviceId package, takeOverAll { plan, sources, config? } serviceId package
      = takeOverAll { plan, sources := sources', config? } serviceId package := by
    intro serviceId package
    funext ctx m
    have hservice := m.service?_rel h
    unfold takeOverAll
    dsimp only
    generalize m.service? sources = s? at hservice ⊢
    generalize m.service? sources' = s?' at hservice ⊢
    -- A mixin without a service in the files adds nothing on either side.
    cases hservice with
    | none => rfl
    | some hs =>
      obtain ⟨methods, options?, hmethods, -, rfl⟩ := hs
      exact foldl_eq_of_forall₂ hmethods (fun ctx m m' hm =>
        takeOver_congr hm plan config? serviceId package _ ctx) ctx
  unfold compose composeService
  simp only [hall]

end Composition

/-! ### Comments -/

/-- Related lists have related elements at each position. -/
theorem getElem?_of_forall₂ {α : Type} {R : α → α → Prop} {xs ys : List α}
    (h : List.Forall₂ R xs ys) (i : Nat) : Option.Rel R xs[i]? ys[i]? := by
  induction h generalizing i with
  | nil => exact .none
  | cons hab _ ih =>
    cases i with
    | zero => exact .some hab
    | succ i => exact ih i

/-- So they have behind each step of a path, the negative ones included. -/
theorem elementAt?_of_forall₂ {α : Type} {R : α → α → Prop} {xs ys : List α}
    (h : List.Forall₂ R xs ys) (position : Int) :
    Option.Rel R (elementAt? xs position) (elementAt? ys position) := by
  unfold elementAt?
  by_cases hneg : position < 0
  · rw [if_pos hneg, if_pos hneg]
    exact .none
  · rw [if_neg hneg, if_neg hneg]
    exact getElem?_of_forall₂ h _

/-- A step to a position leads to the same if what follows does so for related elements. -/
theorem Resolved.at_congr {α : Type} {R : α → α → Prop} {xs ys : List α} (h : List.Forall₂ R xs ys)
    (position : Int) {next next' : α → Resolved} (hnext : ∀ a b, R a b → next a = next' b) :
    Resolved.at xs position next = Resolved.at ys position next' := by
  have helement := elementAt?_of_forall₂ h position
  unfold Resolved.at
  generalize elementAt? xs position = a? at helement ⊢
  generalize elementAt? ys position = b? at helement ⊢
  cases helement with
  | none => rfl
  | some hab => exact hnext _ _ hab

/-- From enums that are alike a path leads to the same. -/
theorem EnumDecl.Alike.resolve_eq {e e' : EnumDecl} (h : e.Alike e') (id : String)
    (path : List Int) : e.resolve id path = e'.resolve id path := by
  obtain ⟨values, options?, hvalues, -, rfl⟩ := h
  unfold EnumDecl.resolve
  have hvalue : ∀ i : Int, Resolved.at e.values i (fun _ => .target (.enumValue id i.toNat))
      = Resolved.at values i fun _ => .target (.enumValue id i.toNat) :=
    fun i => Resolved.at_congr hvalues i fun v v' _ => rfl
  simp only [hvalue]

/-- From messages that are alike a path leads to the same, however far it goes into them. -/
theorem MessageDecl.Alike.resolve_eq {m m' : MessageDecl} (h : m.Alike m') (id : String)
    (path : List Int) : m.resolve id path = m'.resolve id path := by
  -- The induction is on the path, and a step into a message inside moves both messages.
  fun_induction MessageDecl.resolve m id path generalizing m' with
  | case1 | case3 | case8 => rfl
  | case2 m id i =>
    refine Resolved.at_congr h.fields i fun f f' hf => ?_
    rw [hf.name_eq]
  | case4 m id i rest n hn ih =>
    have helement := elementAt?_of_forall₂ h.nested i
    rw [hn] at helement
    rw [MessageDecl.resolve]
    cases helement' : elementAt? m'.nested i with
    | none =>
      rw [helement'] at helement
      cases helement
    | some n' =>
      rw [helement'] at helement
      cases helement with
      | some hn' => rw [ih hn', hn'.name_eq]
  | case5 m id i rest hn =>
    have helement := elementAt?_of_forall₂ h.nested i
    rw [hn] at helement
    rw [MessageDecl.resolve]
    cases helement' : elementAt? m'.nested i with
    | none => rfl
    | some n' =>
      rw [helement'] at helement
      cases helement
  | case6 m id i rest =>
    refine Resolved.at_congr h.enums i fun e e' he => ?_
    rw [he.name_eq, he.resolve_eq]
  | case7 m id i =>
    rw [h.oneofs_eq]
    rfl
  | case9 m id n tail _ _ _ _ _ _ hn =>
    rw [MessageDecl.resolve, if_pos hn] <;> assumption
  | case10 m id n tail _ _ _ _ _ _ hn =>
    rw [MessageDecl.resolve, if_neg hn] <;> assumption

theorem ServiceDecl.Alike.resolve_eq {s s' : ServiceDecl} (h : s.Alike s') (id : String)
    (path : List Int) : s.resolve id path = s'.resolve id path := by
  obtain ⟨methods, options?, hmethods, -, rfl⟩ := h
  have hmethod : ∀ i, Resolved.at s.methods i (fun m => .target (.method (childId id m.name)))
      = Resolved.at methods i fun m => .target (.method (childId id m.name)) :=
    fun i => Resolved.at_congr hmethods i fun m m' hm => by rw [hm.name_eq]
  unfold ServiceDecl.resolve
  simp only [hmethod]

/-- A path leads to the same. -/
theorem FileDecl.Alike.resolve_eq {f f' : FileDecl} (h : f.Alike f') (path : List Int32) :
    f.resolve path = f'.resolve path := by
  have hpackage := h.package_eq
  obtain ⟨messages, enums, services, options?, hmessages, henums, hservices, rfl⟩ := h
  -- A path leads through messages, enums or services, and each of them is alike at its position.
  have hmessage : ∀ i rest,
      Resolved.at f.messages i (fun m => m.resolve (topLevelId f.package m.name) rest)
      = Resolved.at messages i fun m => m.resolve (topLevelId f.package m.name) rest :=
    fun i rest => Resolved.at_congr hmessages i fun m m' hm => by rw [hm.name_eq, hm.resolve_eq]
  have henum : ∀ i rest,
      Resolved.at f.enums i (fun e => e.resolve (topLevelId f.package e.name) rest)
      = Resolved.at enums i fun e => e.resolve (topLevelId f.package e.name) rest :=
    fun i rest => Resolved.at_congr henums i fun e e' he => by rw [he.name_eq, he.resolve_eq]
  have hservice : ∀ i rest,
      Resolved.at f.services i (fun s => s.resolve (topLevelId f.package s.name) rest)
      = Resolved.at services i fun s => s.resolve (topLevelId f.package s.name) rest :=
    fun i rest => Resolved.at_congr hservices i fun s s' hs => by rw [hs.name_eq, hs.resolve_eq]
  unfold FileDecl.resolve
  simp only [hmessage, henum, hservice]
  rfl

/-- The comments of a file are attached to the same. -/
theorem attachComments_congr {f f' : FileDecl} (h : f.Alike f') (ctx : Context) :
    attachComments ctx f = attachComments ctx f' := by
  have hcomment : attachComment f = attachComment f' := by
    funext ctx location
    unfold attachComment
    rw [h.resolve_eq, h.name_eq]
  obtain ⟨messages, enums, services, options?, -, -, -, rfl⟩ := h
  unfold attachComments
  rw [hcomment]

/-! ### Builds -/

/-- Sets that are alike make the same model and the same diagnostics, or fail with the same
    error. -/
theorem buildApi_congr {set set' : DescriptorSet} (h : set.Alike set') (options : BuildOptions) :
    buildApi set options = buildApi set' options := by
  unfold buildApi
  refine (targets_sameResult h options.files).bind_eq fun targets targets' htargets => ?_
  -- What mixins need is loaded from bundled files, which are the same for both.
  have hsources : ∀ loaded,
      List.Forall₂ FileDecl.Alike (set.files ++ loaded) (set'.files ++ loaded) :=
    fun loaded => List.rel_append h (List.forall₂_same.2 fun f _ => .refl f)
  have hinclude : ∀ state, targets.foldl (includeFile options.config?) state
      = targets'.foldl (includeFile options.config?) state :=
    foldl_eq_of_forall₂ htargets fun state f f' hf => includeFile_congr hf options.config? state
  have hattach : ∀ ctx, targets.foldl attachComments ctx = targets'.foldl attachComments ctx :=
    foldl_eq_of_forall₂ htargets fun ctx f f' hf => attachComments_congr hf ctx
  simp only [startsOperations_congr htargets, MixinPlan.load_congr h,
    registerTypes_congr (hsources _), hinclude, hattach, Composition.compose_congr (hsources _)]

end ProtoApi
