import ProtoApi.Proofs.Build.Outcome

namespace ProtoApi

/-!
# What becomes of services and methods once they are registered

The phases after composition write documentation, and they mark methods and types. All services and
methods stay, and so does everything else about them.

* `Method.Keeps`, `Service.Keeps` — the same entity but for what these phases write;
* `Registry.Keeps`, `keeps_foldl` — it stands under each id, also after several steps;
* `keeps_model` — so the model has the services and methods that composition has ended with.
-/

/-! ### Entities -/

/-- `m'` is `m` with another documentation, and it may be marked as a list method. -/
def Method.Keeps (m m' : Method) : Prop :=
  { m with documentation := m'.documentation, pageable := m'.pageable } = m'

theorem Method.Keeps.refl (m : Method) : m.Keeps m := rfl

theorem Method.Keeps.trans {m m' m'' : Method} (h : m.Keeps m') (h' : m'.Keeps m'') :
    m.Keeps m'' := by
  unfold Method.Keeps at *
  rw [← h', ← h]

/-- `s'` is `s` with another documentation. -/
def Service.Keeps (s s' : Service) : Prop := { s with documentation := s'.documentation } = s'

theorem Service.Keeps.refl (s : Service) : s.Keeps s := rfl

/-- Two steps that keep a service keep it together. -/
theorem Service.Keeps.trans {s s' s'' : Service} (h : s.Keeps s') (h' : s'.Keeps s'') :
    s.Keeps s'' := by
  unfold Service.Keeps at *
  rw [← h', ← h]

/-- A service that is kept has its id. -/
theorem Service.Keeps.id_eq {s s' : Service} (h : s.Keeps s') : s'.id = s.id := by
  rw [← h]

/-- It lists the same methods. -/
theorem Service.Keeps.methods_eq {s s' : Service} (h : s.Keeps s') : s'.methods = s.methods := by
  rw [← h]

section Methods

variable {m m' : Method} (h : m.Keeps m')
include h

/-- A method that is kept has its id. -/
theorem Method.Keeps.id_eq : m'.id = m.id := by
  rw [← h]

/-- It has its input type, and everything else that is neither documentation nor a mark. -/
theorem Method.Keeps.inputType_eq : m'.inputType = m.inputType := by
  rw [← h]

theorem Method.Keeps.outputType_eq : m'.outputType = m.outputType := by
  rw [← h]

end Methods

namespace DocTarget

/-- A documentation that is written changes nothing else about a method. -/
theorem keeps_onMethod (t : DocTarget) (documentation id : String) (m : Method) :
    m.Keeps (t.onMethod documentation id m) := by
  cases t
  case method other =>
    simp only [onMethod]
    split <;> rfl
  all_goals rfl

/-- Nor about a service. -/
theorem keeps_onService (t : DocTarget) (documentation id : String) (s : Service) :
    s.Keeps (t.onService documentation id s) := by
  cases t
  case service other =>
    simp only [onService]
    split <;> rfl
  all_goals rfl

end DocTarget

/-! ### Registries -/

namespace Registry

/-- Each service and each method of `r` still stands under its id in `s`. -/
structure Keeps (r s : Registry) : Prop where
  method : ∀ {id m}, r.method? id = some m → ∃ m', s.method? id = some m' ∧ m.Keeps m'
  service : ∀ {id s₀}, r.service? id = some s₀ → ∃ s', s.service? id = some s' ∧ s₀.Keeps s'

theorem Keeps.refl (r : Registry) : r.Keeps r where
  method h := ⟨_, h, .refl _⟩
  service h := ⟨_, h, .refl _⟩

/-- What one step keeps and the next one keeps is kept by both. -/
theorem Keeps.trans {r s t : Registry} (h : r.Keeps s) (h' : s.Keeps t) : r.Keeps t where
  method hm := by
    obtain ⟨m', hm', hkeeps⟩ := h.method hm
    obtain ⟨m'', hm'', hkeeps'⟩ := h'.method hm'
    exact ⟨m'', hm'', hkeeps.trans hkeeps'⟩
  service hs := by
    obtain ⟨s', hs', hkeeps⟩ := h.service hs
    obtain ⟨s'', hs'', hkeeps'⟩ := h'.service hs'
    exact ⟨s'', hs'', hkeeps.trans hkeeps'⟩

/-- Steps that keep services and methods keep them one after the other. -/
theorem keeps_foldl {α : Type} {step : Registry → α → Registry} {l : List α} (r : Registry)
    (h : ∀ a ∈ l, ∀ r : Registry, r.Keeps (step r a)) : r.Keeps (l.foldl step r) :=
  List.foldlRecOn l step (.refl r) fun s hs a ha => hs.trans (h a ha s)

/-- Changing a message changes no service and no method. -/
theorem keeps_modifyMessage (r : Registry) (id : String) (f : Message → Message) :
    r.Keeps (r.modifyMessage id f) :=
  ⟨fun h => ⟨_, h, .refl _⟩, fun h => ⟨_, h, .refl _⟩⟩

/-- Changing a method keeps all methods if the change keeps this one. -/
theorem keeps_modifyMethod (r : Registry) (id : String) {f : Method → Method}
    (hf : ∀ m : Method, m.Keeps (f m)) : r.Keeps (r.modifyMethod id f) where
  method {other m} h := by
    have hlookup : (r.modifyMethod id f).method? other
        = (r.method? other).map fun m => if other = id then f m else m :=
      Table.get?_modify_eq_map r.methods id other f
    -- The method under the id is the one that changes, all others are looked up as before.
    rw [h, Option.map_some] at hlookup
    refine ⟨_, hlookup, ?_⟩
    split
    · exact hf m
    · exact .refl m
  service h := ⟨_, h, .refl _⟩

/-- Writing a documentation keeps services and methods, whatever it documents. -/
theorem keeps_attach (t : DocTarget) (r : Registry) (documentation : String) :
    r.Keeps (t.attach r documentation) where
  method {id m} h := ⟨t.onMethod documentation id m, by rw [t.method?_attach, h, Option.map_some],
    t.keeps_onMethod ..⟩
  service {id s} h :=
    ⟨t.onService documentation id s, by rw [t.service?_attach, h, Option.map_some],
      t.keeps_onService ..⟩

/-- So does writing several of them. -/
theorem keeps_withDocumentation (r : Registry) (docs : List (DocTarget × String)) :
    r.Keeps (r.withDocumentation docs) :=
  keeps_foldl r fun d _ r => keeps_attach d.1 r d.2

/-- Marking list methods writes nothing but their marks, and fields of messages. -/
theorem keeps_markPageable (r : Registry) : r.Keeps r.markPageable :=
  keeps_foldl r fun p _ r =>
    (keeps_modifyMethod r p.method (f := fun m => { m with pageable := true }) fun _ => rfl).trans
      (keeps_modifyMessage _ _ _)

/-- Marking fields that are filled in changes messages only. -/
theorem keeps_markAutoPopulated (r : Registry) (config? : Option ServiceConfig)
    (uuid4Fields : NameSet) : r.Keeps (r.markAutoPopulated config? uuid4Fields) := by
  refine keeps_foldl r fun settings _ r => ?_
  unfold populateListed
  split
  · exact .refl r
  · exact keeps_modifyMessage r _ _

end Registry

/-- Attaching comments keeps services and methods. -/
theorem keeps_foldl_attachComments (ctx : Context) (files : List FileDecl) :
    ctx.registry.Keeps (files.foldl attachComments ctx).registry := by
  rw [foldl_attachComments_eq]
  exact Registry.keeps_foldl ctx.registry fun f _ r => r.keeps_withDocumentation f.documented

/-- After composition no phase adds a service or a method, or takes one away. -/
theorem Preparation.keeps_model (p : Preparation) (config? : Option ServiceConfig) (ctx : Context) :
    ((p.composition config?).compose (p.included config? ctx)
      (p.listed config? ctx).services).registry.Keeps (p.model config? ctx).registry := by
  unfold model
  rw [Api.registry_annotate]
  -- What is left to do is to attach comments and to mark methods and fields.
  have hfinished := keeps_foldl_attachComments
    ((p.composition config?).compose (p.included config? ctx) (p.listed config? ctx).services)
      p.targets
  exact hfinished.trans
    ((Registry.keeps_markPageable _).trans (Registry.keeps_markAutoPopulated _ _ _))

end ProtoApi
