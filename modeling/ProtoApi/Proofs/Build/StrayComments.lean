import ProtoApi.Proofs.Build.Locations
import ProtoApi.Proofs.Build.Origin

namespace ProtoApi

/-!
# Comments that end up at mixin methods

A declared method that cannot be built leaves its id free, and a mixin method may take it. Comments
are attached by ids, so that the comment of the declaration is then found at the mixin method.

* `mem_documented_method`, `FileDecl.CommentAt` — what a file documents under the id of a method are
  comments at declarations of methods with that id;
* `FileDecl.StrayComment` — such a comment where the declared method has been dropped;
* `documentation_of_taken` — a mixin method of a model has the last of these comments, or no
  documentation at all;
* `exists_documented_taken` — so that not all of them are without documentation.
-/

/-! ### Comments of methods -/

namespace FileDecl

/-- The file has a comment at the declaration of a method, and this is the documentation that it
    gives. -/
structure CommentAt (f : FileDecl) (s : ServiceDecl) (decl : MethodDecl) (text : String) :
    Prop where
  service_mem : s ∈ f.services
  method_mem : decl ∈ s.methods
  exists_location : ∃ (i j : Nat) (path : List Int32) (comment : String), f.services[i]? = some s ∧
    s.methods[j]? = some decl ∧ path.map Int32.toInt = [6, (i : Int), 2, (j : Int)] ∧
    (path, comment) ∈ f.comments ∧
    trimComment comment = text

/-- What stands at the id of a method is the declaration of a method with that id. -/
theorem Locates.exists_method {f : FileDecl} {path : List Int} {id : String}
    (h : f.Locates path (.method id)) :
    ∃ (i j : Nat) (s : ServiceDecl) (decl : MethodDecl), f.services[i]? = some s ∧
      s.methods[j]? = some decl ∧
      path = [6, (i : Int), 2, (j : Int)] ∧ childId (f.serviceId s) decl.name = id := by
  cases h with
  | @method i j s decl hs hdecl => exact ⟨i, j, s, decl, hs, hdecl, rfl, rfl⟩

/-- Only comments at its declarations document a method. -/
theorem mem_documented_method {f : FileDecl} {id text : String}
    (h : (DocTarget.method id, text) ∈ f.documented) :
    ∃ s decl, f.CommentAt s decl text ∧ childId (f.serviceId s) decl.name = id := by
  obtain ⟨⟨path, comment⟩, hcomment, hc⟩ := List.mem_filterMap.1 h
  cases hr : f.resolve path with
  | target t =>
    simp only [hr, Option.some.injEq, Prod.mk.injEq] at hc
    obtain ⟨rfl, htext⟩ := hc
    obtain ⟨i, j, s, decl, hs, hdecl, hpath, hid⟩ := (resolve_eq_target_iff.1 hr).exists_method
    exact ⟨s, decl, ⟨List.mem_of_getElem? hs, List.mem_of_getElem? hdecl,
      i, j, path, comment, hs, hdecl, hpath, hcomment, htext⟩, hid⟩
  | ignored =>
    rw [hr] at hc
    nomatch hc
  | unknown =>
    rw [hr] at hc
    nomatch hc

/-- A comment at the declaration of a method that has been dropped, and the documentation that it
    gives. -/
structure StrayComment (f : FileDecl) (diagnostics : List Diagnostic) (id text : String) :
    Prop where
  exists_declaration : ∃ s decl, f.CommentAt s decl text ∧ childId (f.serviceId s) decl.name = id
  exists_reason : ∃ reason, .methodDropped id reason ∈ diagnostics

end FileDecl

/-! ### Methods of mixins -/

/-- A method of a model that is no native one has the documentation of the last comment at a
    declaration with its id. If there is any such comment, the declared method has been dropped. -/
theorem documentation_of_taken {set : DescriptorSet} {options : BuildOptions}
    {targets : List FileDecl} (ht : set.targets options.files = .ok targets) {b : ApiBuild}
    (hb : buildApi set options = .ok b) {id : String} {m : Method}
    (hm : b.api.registry.method? id = some m)
    (hnative : ∀ n ∈ (set.preparation options targets).natives options.config?, n.id ≠ id) :
    m.documentation = latestDocumentation (targets.flatMap (·.documented)) (.method id) "" ∧
      (m.documentation = "" ∨ ∃ f ∈ targets, f.StrayComment b.diagnostics id m.documentation) := by
  obtain ⟨ctx, hregister, rfl⟩ := exists_registered_of_buildApi ht hb
  simp only at hm
  rw [Preparation.method?_model, Option.map_eq_some_iff] at hm
  obtain ⟨n, hn, rfl⟩ := hm
  -- The method comes of an offer, so that it has no documentation before the comments are attached.
  have hplain : n.documentation = "" := by
    rcases Preparation.mem_natives_or_takenFrom hregister hn with ⟨hmem, hid⟩ | ⟨o, ho⟩
    · exact absurd hid (hnative n hmem)
    · exact ho.documentation_eq
  have hlatest : latestDocumentation (targets.flatMap (·.documented)) (.method id) n.documentation
      = latestDocumentation (targets.flatMap (·.documented)) (.method id) "" := by rw [hplain]
  refine ⟨hlatest, ?_⟩
  show latestDocumentation (targets.flatMap (·.documented)) (.method id) n.documentation = "" ∨ _
  rcases latestDocumentation_mem (targets.flatMap (·.documented)) (.method id) n.documentation
    with h | h
  · exact Or.inl (h.trans hplain)
  · obtain ⟨f, hf, hmem⟩ := List.mem_flatMap.1 h
    obtain ⟨s, decl, hcomment, hid⟩ := FileDecl.mem_documented_method hmem
    refine Or.inr ⟨f, hf, ⟨s, decl, hcomment, hid⟩, ?_⟩
    -- The method that is declared there has the id as well, so it is not among the native ones.
    have hdeclared : (⟨f.serviceId s, f.package, s⟩ : DeclaredService)
        ∈ targets.flatMap FileDecl.declaredServices :=
      List.mem_flatMap.2 ⟨f, hf, List.mem_map.2 ⟨s, hcomment.service_mem, rfl⟩⟩
    rcases Preparation.mem_natives_or_dropped options.config? hregister hdeclared
      hcomment.method_mem with
      ⟨n', hn', hid'⟩ | ⟨reason, hreason⟩
    · exact absurd (hid'.trans hid) (hnative n' hn')
    · rw [hid] at hreason
      exact ⟨reason,
        ((set.preparation options targets).diagnostics_included_kept _ _).subset hreason⟩

/-- A service whose only method has a comment, but no HTTP rule. -/
def jobsFile : FileDecl where
  name? := "jobs.proto"
  package? := "jobs"
  services := [
    { name? := "Jobs"
      methods := [
        { name? := "GetOperation"
          inputType? := ".google.longrunning.GetOperationRequest"
          outputType? := operationType }] }]
  sourceInfo? := some [⟨[6, 0, 2, 0], some " Looks a job up.\n"⟩]

/-- The file, and the mixin that has a method of that name. -/
def jobsSet : DescriptorSet where
  files := [
    { name? := "google/longrunning/operations.proto"
      package? := "google.longrunning"
      messages := [
        { name? := "Operation" },
        { name? := "GetOperationRequest"
          fields := [{ name? := "name", number? := some 1, kind? := some (.name "TYPE_STRING") }] }]
      services := [
        { name? := "Operations"
          methods := [
            { name? := "GetOperation"
              inputType? := ".google.longrunning.GetOperationRequest"
              outputType? := operationType
              options? := Mixin.bound [("get", .string "/v1/\x7bname=operations/**\x7d")] }] }] },
    jobsFile]

def jobsRequest : BuildOptions where
  files := ["jobs.proto"]
  bundledMixins := false

theorem buildApi_jobsSet :
    buildApi jobsSet jobsRequest = .ok (jobsSet.outcome jobsRequest [jobsFile]) :=
  buildApi_of_no_messages rfl (by decide +kernel) (by simp [jobsFile])

/-- The declared method is dropped, and that of the mixin is registered under its id, with its
    comment. -/
theorem exists_getOperation : ∃ m,
    (jobsSet.outcome jobsRequest [jobsFile]).api.registry.method? ".jobs.Jobs.GetOperation"
        = some m ∧
      (∀ n ∈ (jobsSet.preparation jobsRequest [jobsFile]).natives none,
        n.id ≠ ".jobs.Jobs.GetOperation") ∧
      m.documentation = "Looks a job up." := by
  have h :
      (((jobsSet.outcome jobsRequest [jobsFile]).api.registry.method? ".jobs.Jobs.GetOperation").any
      (·.documentation = "Looks a job up.")
        && ((jobsSet.preparation jobsRequest [jobsFile]).natives none).isEmpty)
        = true := by
    decide +kernel
  simp only [Bool.and_eq_true, Option.any_eq_true, decide_eq_true_eq, List.isEmpty_iff] at h
  obtain ⟨⟨m, hm, hdocumentation⟩, hnatives⟩ := h
  refine ⟨m, hm, ?_, hdocumentation⟩
  rw [hnatives]
  exact fun n hn => absurd hn List.not_mem_nil

/-- The comment of the mixin method is that of the dropped declaration. -/
theorem jobs_documentation : jobsSet.targets jobsRequest.files = .ok [jobsFile] ∧
    buildApi jobsSet jobsRequest = .ok (jobsSet.outcome jobsRequest [jobsFile]) ∧
    ∃ m, (jobsSet.outcome jobsRequest [jobsFile]).api.registry.method? ".jobs.Jobs.GetOperation"
        = some m ∧
      (∀ n ∈ (jobsSet.preparation jobsRequest [jobsFile]).natives none,
        n.id ≠ ".jobs.Jobs.GetOperation") ∧
      m.documentation = latestDocumentation ([jobsFile].flatMap (·.documented))
        (.method ".jobs.Jobs.GetOperation") "" ∧
      (m.documentation = "" ∨ ∃ f ∈ [jobsFile],
        f.StrayComment (jobsSet.outcome jobsRequest [jobsFile]).diagnostics
        ".jobs.Jobs.GetOperation" m.documentation) := by
  obtain ⟨m, hm, hnative, -⟩ := exists_getOperation
  exact ⟨rfl, buildApi_jobsSet, m, hm, hnative,
    documentation_of_taken rfl buildApi_jobsSet hm hnative⟩

/-- A mixin method of a model may have documentation, even if no mixin is generated as a service of
    its own. -/
theorem exists_documented_taken :
    ¬ ∀ (set : DescriptorSet) (options : BuildOptions) (targets : List FileDecl) (b : ApiBuild),
      set.targets options.files = .ok targets →
      (∀ f ∈ targets, ∀ s ∈ f.services, ∀ m ∈ Mixin.catalog, f.serviceId s ≠ "." ++ m.api) →
      buildApi set options = .ok b →
      ∀ id m, b.api.registry.method? id = some m →
        (∀ n ∈ (set.preparation options targets).natives options.config?, n.id ≠ id) →
          m.documentation = "" := by
  intro h
  obtain ⟨m, hm, hnative, hdocumentation⟩ := exists_getOperation
  have hempty := h jobsSet jobsRequest [jobsFile] _ rfl (by decide) buildApi_jobsSet _ m hm hnative
  rw [hdocumentation] at hempty
  nomatch hempty

end ProtoApi
