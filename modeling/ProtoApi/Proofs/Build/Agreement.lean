import ProtoApi.Proofs.Build.Phases

namespace ProtoApi

/-!
# Builds that differ in the order of their diagnostics

Registration may report what it finds in one order or another. Nothing after it looks at the
diagnostics so far.

* `Context.Agree` — contexts that are alike but for the order of their diagnostics;
* `addMethods_agree`, `includeFile_agree`, `compose_agree`, `attachComments_agree` — what each phase
  makes of contexts that agree agrees as well;
* `ApiBuild.Agree`, `describe_agree` — so the models at the end are equal, or neither can be built.
-/

/-- Contexts that are alike but for the order of their diagnostics. -/
structure Context.Agree (ctx ctx' : Context) : Prop where
  registry : ctx.registry = ctx'.registry
  diagnostics : ctx.diagnostics.Perm ctx'.diagnostics
  uuid4Fields : ctx.uuid4Fields = ctx'.uuid4Fields

namespace Context.Agree

variable {ctx ctx' : Context}

/-- Contexts that agree still do when the same is reported in both of them. -/
theorem reportAll (h : ctx.Agree ctx') (ds : List Diagnostic) :
    (ctx.reportAll ds).Agree (ctx'.reportAll ds) :=
  ⟨h.registry, h.diagnostics.append_right ds, h.uuid4Fields⟩

theorem report (h : ctx.Agree ctx') (d : Diagnostic) : (ctx.report d).Agree (ctx'.report d) :=
  h.reportAll [d]

/-- So they do when the same is done to both registries. -/
theorem mapRegistry (h : ctx.Agree ctx') (f : Registry → Registry) :
    (ctx.mapRegistry f).Agree (ctx'.mapRegistry f) :=
  ⟨congrArg f h.registry, h.diagnostics, h.uuid4Fields⟩

/-- Steps that keep agreement keep it one after the other. -/
theorem foldl {α : Type} {l : List α} {f g : Context → α → Context} (h : ctx.Agree ctx')
    (hstep : ∀ a ∈ l, ∀ c c' : Context, c.Agree c' → (f c a).Agree (g c' a)) :
    (l.foldl f ctx).Agree (l.foldl g ctx') :=
  List.foldl_rel h hstep

end Context.Agree

/-! ### Services -/

section Services

variable (config? : Option ServiceConfig) {ctx ctx' : Context}

/-- Which methods are built, and with which ids, depends on the registry. -/
theorem addMethods_agree (package serviceId : String) (h : ctx.Agree ctx')
    (decls : List MethodDecl) :
    (addMethods config? package serviceId ctx decls).1.Agree
        (addMethods config? package serviceId ctx' decls).1 ∧
      (addMethods config? package serviceId ctx decls).2
        = (addMethods config? package serviceId ctx' decls).2 := by
  induction decls generalizing ctx ctx' with
  | nil => exact ⟨h, rfl⟩
  | cons decl rest ih =>
    simp only [addMethods, h.registry]
    cases buildMethod ctx'.registry decl (childId serviceId decl.name) package none with
    | ok method =>
      obtain ⟨hctx, hids⟩ := ih (h.mapRegistry (·.addMethod
        { method with
          hostOverride := hostOverride? config? (selectorOf (childId serviceId decl.name)) }))
      exact ⟨hctx, congrArg (childId serviceId decl.name :: ·) hids⟩
    | error e => exact ih (h.report _)

/-- A service is registered alike, with the same methods. -/
theorem processService_agree (file : FileDecl) (h : ctx.Agree ctx') (decl : ServiceDecl) :
    (processService config? file ctx decl).Agree (processService config? file ctx' decl) := by
  obtain ⟨hctx, hids⟩ := addMethods_agree config? file.package (file.serviceId decl) h decl.methods
  unfold processService
  simp only
  rw [hids]
  exact hctx.mapRegistry _

/-- What a file contributes to the lists of a model depends on the registry. -/
theorem includeFile_agree (h : ctx.Agree ctx') (api : Api) (f : FileDecl) :
    (includeFile config? (ctx, api) f).1.Agree (includeFile config? (ctx', api) f).1 ∧
      (includeFile config? (ctx, api) f).2 = (includeFile config? (ctx', api) f).2 := by
  unfold includeFile includeTypes includeServices
  simp only
  rw [h.registry]
  refine ⟨?_, rfl⟩
  apply (h.reportAll _).foldl
  intro decl _ c c' hc
  exact processService_agree config? f hc decl

/-- So it is for one file after the other, and the lists stay the same. -/
theorem includeFiles_agree (h : ctx.Agree ctx') (api : Api) (files : List FileDecl) :
    (files.foldl (includeFile config?) (ctx, api)).1.Agree
        (files.foldl (includeFile config?) (ctx', api)).1 ∧
      (files.foldl (includeFile config?) (ctx, api)).2
        = (files.foldl (includeFile config?) (ctx', api)).2 := by
  induction files generalizing ctx ctx' api with
  | nil => exact ⟨h, rfl⟩
  | cons f rest ih =>
    obtain ⟨hctx, hapi⟩ := includeFile_agree config? h api f
    -- With the same lists so far, the files left go on from contexts that agree.
    rw [List.foldl_cons, List.foldl_cons]
    generalize includeFile config? (ctx, api) f = included at hctx hapi ⊢
    generalize includeFile config? (ctx', api) f = included' at hctx hapi ⊢
    obtain ⟨c, a⟩ := included
    obtain ⟨c', a'⟩ := included'
    subst hapi
    exact ih hctx a

end Services

/-! ### Mixins -/

namespace Composition

variable (c : Composition) {ctx ctx' : Context}

/-- A mixin method is taken over in both contexts or in neither. -/
theorem takeOver_agree (serviceId package : String) (m : Mixin) (h : ctx.Agree ctx')
    (decl : MethodDecl) :
    (c.takeOver serviceId package m ctx decl).Agree (c.takeOver serviceId package m ctx' decl) := by
  unfold takeOver
  simp only
  rw [h.registry]
  split
  · exact h
  · split
    · exact (h.reportAll _).mapRegistry _
    · exact h.reportAll _

/-- Where the mixins of the plan are found to be the same, it does not matter in which files. -/
theorem compose_agree {sources : List FileDecl}
    (hs : ∀ m ∈ c.plan.mixins, m.service? c.sources = m.service? sources) (h : ctx.Agree ctx')
    (serviceIds : List String) :
    (c.compose ctx serviceIds).Agree (compose { c with sources } ctx' serviceIds) := by
  unfold compose
  -- The services, the mixins of each, and the methods of each of these.
  apply h.foldl
  intro id _ x x' hx
  unfold composeService
  rw [hx.registry]
  split
  · next s _ =>
    apply hx.foldl
    intro m hm y y' hy
    simp only [takeOverAll, hs m hm]
    split
    · apply hy.foldl
      intro decl _ z z' hz
      exact c.takeOver_agree id s.package m hz decl
    · exact hy
  · exact hx

end Composition

/-! ### Comments -/

/-- Comments lead to the same in both contexts, and those that lead nowhere are reported in both. -/
theorem attachComments_agree {ctx ctx' : Context} (h : ctx.Agree ctx') (file : FileDecl) :
    (attachComments ctx file).Agree (attachComments ctx' file) := by
  unfold attachComments
  apply h.foldl
  intro location _ c c' hc
  unfold attachComment
  split
  · exact hc
  · split
    · exact hc
    · split
      · exact hc.mapRegistry _
      · exact hc
      · exact hc.report _

/-! ### The end of a build -/

/-- Builds that are alike but for the order of their diagnostics: both fail, or both end with the
    same model. -/
inductive ApiBuild.Agree : Except BuildError ApiBuild → Except BuildError ApiBuild → Prop where
  | failed (e e' : BuildError) : Agree (.error e) (.error e')
  | built {b b' : ApiBuild} (api : b.api = b'.api)
      (diagnostics : b.diagnostics.Perm b'.diagnostics) : Agree (.ok b) (.ok b')

/-- After registration a build depends neither on the order of the diagnostics nor on where mixins
    are found. -/
theorem Preparation.describe_agree (p : Preparation) (config? : Option ServiceConfig)
    {ctx ctx' : Context} {sources : List FileDecl}
    (hs : ∀ m ∈ p.plan.mixins, m.service? p.sources = m.service? sources) (h : ctx.Agree ctx') :
    ApiBuild.Agree (p.describe config? ctx) ({ p with sources }.describe config? ctx') := by
  -- The lists of the model are the same as soon as the files are included.
  obtain ⟨hincluded, hapi⟩ := includeFiles_agree config? h (Api.ofConfig config?) p.targets
  have hend : Context.Agree
      (p.targets.foldl attachComments
        (Composition.compose { plan := p.plan, sources := p.sources, config? }
        (p.targets.foldl (includeFile config?) (ctx, Api.ofConfig config?)).1
        (p.targets.foldl (includeFile config?) (ctx', Api.ofConfig config?)).2.services))
      (p.targets.foldl attachComments (Composition.compose { plan := p.plan, sources, config? }
        (p.targets.foldl (includeFile config?) (ctx', Api.ofConfig config?)).1
        (p.targets.foldl (includeFile config?) (ctx', Api.ofConfig config?)).2.services)) := by
    apply (Composition.compose_agree { plan := p.plan, sources := p.sources,
                                       config? } hs hincluded _).foldl
    intro f _ c c' hc
    exact attachComments_agree hc f
  unfold describe
  simp only
  rw [hapi, hend.registry, hend.uuid4Fields]
  -- The references of the same model are checked on both sides.
  cases Api.checkReferences _ with
  | error e => exact .failed e e
  | ok u => exact .built rfl hend.diagnostics

end ProtoApi
