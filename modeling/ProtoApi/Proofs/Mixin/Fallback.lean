import ProtoApi.Proofs.Build.Phases
import ProtoApi.Proofs.Except
import ProtoApi.Proofs.Mixin.Loading

namespace ProtoApi

/-!
# Bundled files in place of files of the set

A build that may use bundled files behaves like one of a set that carries them.

* `targets_append` — files at the end of a set do not change which files a successful request means;
* `load_append_loaded` — a plan whose files are loaded needs no others;
* `buildApi_append_loaded` — a set with the loaded files builds without bundled files what the set
  alone builds with them.
-/

/-! ### The files to generate -/

/-- Files at the end of a set are not what a path means if it means another one. -/
theorem addTarget_append {s : DescriptorSet} {acc targets : List FileDecl} {path : String}
    (h : s.addTarget acc path = .ok targets) (more : List FileDecl) :
    (DescriptorSet.mk (s.files ++ more)).addTarget acc path = .ok targets := by
  unfold DescriptorSet.addTarget at h ⊢
  cases hf : s.files.find? (·.matches path) with
  | none =>
    rw [hf] at h
    nomatch h
  | some f =>
    rw [hf] at h
    rw [List.find?_append, hf, Option.some_or]
    exact h

/-- Files at the end of a set do not change which files a successful request means. -/
theorem targets_append {s : DescriptorSet} {requested : List String} {targets : List FileDecl}
    (hr : requested ≠ []) (h : s.targets requested = .ok targets) (more : List FileDecl) :
    (DescriptorSet.mk (s.files ++ more)).targets requested = .ok targets := by
  have hne : ¬ requested.isEmpty = true := fun he => hr (List.isEmpty_iff.1 he)
  unfold DescriptorSet.targets at h ⊢
  rw [if_neg hne] at h ⊢
  -- The files found so far are the same in both runs.
  have hall : ∀ acc : List FileDecl, requested.foldlM s.addTarget acc = .ok targets →
      requested.foldlM (DescriptorSet.mk (s.files ++ more)).addTarget acc = .ok targets := by
    clear h hr hne
    induction requested with
    | nil => exact fun _ h => h
    | cons path rest ih =>
      intro acc h
      rw [List.foldlM_cons, bind_eq_ok_iff] at h
      obtain ⟨found, hfound, hrest⟩ := h
      rw [List.foldlM_cons, bind_eq_ok_iff]
      exact ⟨found, addTarget_append hfound more, ih found hrest⟩
  exact hall [] h

/-! ### The files that a plan needs -/

/-- A plan whose files are loaded needs no others, and none of its mixins is lost. -/
theorem load_append_loaded (config? : Option ServiceConfig) (force : Bool) (set : DescriptorSet) :
    (MixinPlan.make config? force).load
      ⟨set.files ++ ((MixinPlan.make config? force).load set true).1⟩ false
      = ([], ((MixinPlan.make config? force).load set true).2) := by
  obtain ⟨loaded, hload, hcarries⟩ :=
    MixinPlan.loadFiles_bundled set [] (MixinPlan.make config? force).mixins
    fun m hm => MixinPlan.mem_catalog_of_mem_make hm
  rw [List.nil_append] at hload hcarries
  -- Each mixin finds its files in the longer set, so nothing has to be loaded again.
  have hagain :
      MixinPlan.loadFiles ⟨set.files ++ loaded⟩ false [] (MixinPlan.make config? force).mixins
      = ([], (MixinPlan.make config? force).mixins, []) := by
    apply MixinPlan.loadFiles_available
    intro m hm
    rw [MixinPlan.carries_nil_append]
    exact hcarries m hm m.file (MixinPlan.file_mem_files m)
  unfold MixinPlan.load
  rw [hload]
  simp only
  rw [hagain]

/-! ### The whole build -/

/-- Where the requested files are found, a set that carries the files that would be loaded builds
    without bundled files what the set alone builds with them: the same model and diagnostics, or
    the same error. -/
theorem buildApi_append_loaded (set : DescriptorSet) (config? : Option ServiceConfig)
    {requested : List String} {targets : List FileDecl} (hr : requested ≠ [])
    (ht : set.targets requested = .ok targets) :
    buildApi ⟨set.files ++ ((MixinPlan.make config? (startsOperations targets)).load set true).1⟩
        { files := requested, config?, bundledMixins := false }
      = buildApi set { files := requested, config?, bundledMixins := true } := by
  have ht' :=
    targets_append hr ht ((MixinPlan.make config? (startsOperations targets)).load set true).1
  have hload := load_append_loaded config? (startsOperations targets) set
  rw [buildApi_eq, buildApi_eq, prepare_of_targets ht', prepare_of_targets ht]
  simp only
  rw [hload, List.append_nil]

/-- A file with a method that starts an operation. -/
def archiveFile : FileDecl where
  name? := "archive.proto"
  package? := "archive"
  services := [
    { name? := "Archive"
      methods := [
        { name? := "Restore", inputType? := ".google.protobuf.Empty",
          outputType? := operationType }] }]

/-- Restoring needs the files for operations. The set has only one of them, and the other ones are
    loaded. -/
theorem buildApi_archive_loaded :
    (DescriptorSet.mk [Mixin.emptyFile, archiveFile]).targets ["proto/archive.proto"]
        = .ok [archiveFile] ∧
      ((MixinPlan.make none (startsOperations [archiveFile])).load ⟨[Mixin.emptyFile, archiveFile]⟩
        true).1.map (·.name)
        = ["google/protobuf/any.proto", "google/protobuf/duration.proto", "google/rpc/status.proto",
            "google/longrunning/operations.proto"] ∧
      buildApi
          ⟨[Mixin.emptyFile, archiveFile]
            ++ ((MixinPlan.make none (startsOperations [archiveFile])).load
              ⟨[Mixin.emptyFile, archiveFile]⟩ true).1⟩
          { files := ["proto/archive.proto"], bundledMixins := false }
        = buildApi ⟨[Mixin.emptyFile, archiveFile]⟩ { files := ["proto/archive.proto"],
                                                      bundledMixins := true } :=
  ⟨rfl, by decide +kernel,
    buildApi_append_loaded ⟨[Mixin.emptyFile, archiveFile]⟩ none (List.cons_ne_nil _ _) rfl⟩

end ProtoApi
