import ProtoApi.Proofs.Build.Outcome
import ProtoApi.Proofs.Build.Registered
import ProtoApi.Proofs.EnumAlias
import ProtoApi.Proofs.Mixin.Loading
import ProtoApi.Proofs.Model.RoundTrip

namespace ProtoApi

/-!
# The positions in the enums of a build

An enum of a model lists positions of its values. Phases after registration leave them alone.

* `Registry.SamePositions` — the enums of two registries list the same positions, and
  `samePositions_model`;
* `FileDecl.IsNarrow`, `MessageDecl.IsNarrow` — no enum has more than `n` values;
  `isNarrow_of_mem_bundledFiles`;
* `fits_of_buildApi` — the positions of a build fit 64 bits if the set is narrow enough.
-/

/-! ### Positions that stay -/

namespace Registry

/-- The enums under each id list the same positions. -/
def SamePositions (r s : Registry) : Prop :=
  ∀ id, (r.enum? id).map (·.uniqueNumberValues) = (s.enum? id).map (·.uniqueNumberValues)

theorem SamePositions.refl (r : Registry) : r.SamePositions r := fun _ => rfl

/-- Steps that keep positions keep them together. -/
theorem SamePositions.trans {r s t : Registry} (h : r.SamePositions s) (h' : s.SamePositions t) :
    r.SamePositions t :=
  fun id => (h id).trans (h' id)

/-- The same types list the same positions. -/
theorem SameTypes.samePositions {r s : Registry} (h : r.SameTypes s) : r.SamePositions s := by
  intro id
  unfold enum?
  rw [h.enums]

/-- A change of an enum keeps positions if it keeps those of the enum. -/
theorem samePositions_modifyEnum (r : Registry) (id : String) {f : EnumType → EnumType}
    (hf : ∀ e, (f e).uniqueNumberValues = e.uniqueNumberValues) :
    (r.modifyEnum id f).SamePositions r := by
  intro other
  show (Option.map _ ((r.enums.modify id f).get? other)) = _
  rw [Table.get?_modify]
  split
  · rw [Option.map_map]
    exact congrFun (congrArg Option.map (funext hf)) _
  · rfl

/-- Steps that keep positions keep them one after the other. -/
theorem samePositions_foldl {α : Type} {step : Registry → α → Registry} {l : List α} (r : Registry)
    (h : ∀ a ∈ l, ∀ r : Registry, (step r a).SamePositions r) : (l.foldl step r).SamePositions r :=
  List.foldlRecOn l step (.refl r) fun s hs a ha => (h a ha s).trans hs

/-- Documentations of enums and of their values write texts. -/
theorem samePositions_withDocumentation (r : Registry) (docs : List (DocTarget × String)) :
    (r.withDocumentation docs).SamePositions r := by
  apply samePositions_foldl
  rintro ⟨t, documentation⟩ - r
  cases t
  case enum => exact samePositions_modifyEnum r _ fun _ => rfl
  case enumValue => exact samePositions_modifyEnum r _ fun _ => rfl
  all_goals exact fun _ => rfl

/-- Marks of list methods touch no enum. -/
theorem samePositions_markPageable (r : Registry) : r.markPageable.SamePositions r :=
  samePositions_foldl r fun _ _ _ _ => rfl

/-- Nor do marks of fields. -/
theorem samePositions_markAutoPopulated (r : Registry) (config? : Option ServiceConfig)
    (uuid4Fields : NameSet) : (r.markAutoPopulated config? uuid4Fields).SamePositions r := by
  refine samePositions_foldl r fun settings _ r => ?_
  unfold populateListed
  split
  · exact .refl r
  · exact fun _ => rfl

end Registry

/-- Attaching comments keeps positions. -/
theorem samePositions_foldl_attachComments (ctx : Context) (files : List FileDecl) :
    (files.foldl attachComments ctx).registry.SamePositions ctx.registry := by
  rw [foldl_attachComments_eq]
  exact Registry.samePositions_foldl ctx.registry fun f _ r =>
    r.samePositions_withDocumentation f.documented

/-- After registration no phase changes the positions in an enum. -/
theorem Preparation.samePositions_model (p : Preparation) (config? : Option ServiceConfig)
    (ctx : Context) : (p.model config? ctx).registry.SamePositions ctx.registry := by
  unfold model
  rw [Api.registry_annotate]
  have hfinished : (p.finished config? ctx).registry.SamePositions ctx.registry := by
    refine (samePositions_foldl_attachComments _ _).trans ?_
    have hcomposed := (p.composition config?).sameTypes_compose (p.included config? ctx)
      (p.listed config? ctx).services
    have hincluded : (p.included config? ctx).registry.SameTypes ctx.registry := ⟨rfl, rfl⟩
    exact (hcomposed.trans hincluded).samePositions
  have hmarked := Registry.samePositions_markPageable (p.finished config? ctx).registry
  exact ((Registry.samePositions_markAutoPopulated _ _ _).trans hmarked).trans hfinished

/-! ### Declarations with few values -/

/-- No enum inside a message, at any depth, has more than `n` values. -/
def MessageDecl.IsNarrow (n : Nat) (m : MessageDecl) : Prop :=
  ∀ package parent?, ∀ d ∈ m.declaredEnums package parent?, d.decl.values.length ≤ n

/-- No enum of a file, at any depth, has more than `n` values. -/
def FileDecl.IsNarrow (n : Nat) (f : FileDecl) : Prop :=
  ∀ d ∈ f.declaredEnums, d.decl.values.length ≤ n

/-- The bundled files declare small enums only. -/
theorem isNarrow_of_mem_bundledFiles {f : FileDecl} (h : f ∈ Mixin.bundledFiles) :
    f.IsNarrow UInt64.size := by
  have hall : ∀ f ∈ Mixin.bundledFiles, ∀ d ∈ f.declaredEnums, d.decl.values.length ≤ 4 := by
    decide +kernel
  intro d hd
  exact (hall f h d hd).trans (by decide)

/-! ### Positions that fit -/

/-- What is registered for an enum is made of one of its declarations. -/
theorem exists_declared_of_enum? {ctx : Context} {diagnostics : List Diagnostic}
    {files : List FileDecl} (h : registerTypes { diagnostics } files = (ctx, none)) {id : String}
    {e : EnumType} (he : ctx.registry.enum? id = some e) :
    ∃ f ∈ files, ∃ d ∈ f.declaredEnums, e = d.entity := by
  cases hlast : (files.flatMap FileDecl.declaredEnums).reverse.find? (·.id = id) with
  | some d =>
    rw [enum?_registerTypes h hlast] at he
    have hmem := List.mem_of_find?_eq_some hlast
    rw [List.mem_reverse, List.mem_flatMap] at hmem
    obtain ⟨f, hf, hd⟩ := hmem
    exact ⟨f, hf, d, hd, (Option.some.inj he).symm⟩
  | none =>
    -- Nothing is registered before, so that an enum without a declaration is not registered at all.
    have hcontains := contains_enums_registerTypes h id
    have hnot : (files.flatMap FileDecl.declaredEnums).any (·.id = id) = false := by
      rw [List.any_eq_false]
      intro d hd
      exact List.find?_eq_none.1 hlast d (List.mem_reverse.2 hd)
    rw [hnot, Table.contains, show ctx.registry.enums.get? id = some e from he] at hcontains
    simp [Table.contains] at hcontains

/-- The positions of a build fit 64 bits, unless the set declares an enum with more values than
    that. -/
theorem fits_of_buildApi {set : DescriptorSet} {options : BuildOptions} {b : ApiBuild}
    (hset : ∀ f ∈ set.files, f.IsNarrow UInt64.size) (hb : buildApi set options = .ok b) :
    b.api.registry.Fits := by
  obtain ⟨targets, ctx, -, hregister, -, rfl⟩ := buildApi_eq_ok_iff.1 hb
  intro e he i hi
  -- The positions are those of the enum that is registered under the same id.
  obtain ⟨⟨id, e⟩, hentry, rfl⟩ := List.mem_map.1 he
  have hmodel := (set.preparation options targets).samePositions_model options.config? ctx id
  rw [show Registry.enum? _ id = some e from Table.mem_entries_iff.1 hentry,
    Option.map_some] at hmodel
  obtain ⟨registered, hregistered, hpositions⟩ := Option.map_eq_some_iff.1 hmodel.symm
  obtain ⟨f, hf, d, hd, rfl⟩ := exists_declared_of_enum? hregister hregistered
  -- The enum is declared by the set or by a bundled file.
  have hnarrow : f.IsNarrow UInt64.size := by
    rcases List.mem_append.1 hf with hf | hf
    · exact hset f hf
    · have hnone : ∀ f ∈ ([] : List FileDecl), f ∈ Mixin.bundledFiles := by simp
      exact isNarrow_of_mem_bundledFiles (MixinPlan.mem_bundledFiles_of_mem_loadFiles hnone hf)
  rw [← hpositions] at hi
  have hlt := lt_length_of_mem_uniqueNumberValues hi
  rw [List.length_map] at hlt
  exact hlt.trans_le (hnarrow d hd)

end ProtoApi
