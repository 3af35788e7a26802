import ProtoApi.Proofs.Build.Registered
import ProtoApi.Proofs.Build.Requests
import ProtoApi.Proofs.Command.Run

namespace ProtoApi

/-!
# What a run with a directory of sources generates

The source files below the directory are requested together with the files of the command line. All
that is listed then comes from files that are requested; but if nothing is requested in the end, all
files are generated.

* `Api.Lists`, `lists_of_buildApi` — a model lists what the files to generate declare outside of
  messages;
* `ModelOptions.Requests`, `mem_requested_iff` — the paths that a run requests;
* `runCommand_sourceDirectory` — what a run lists that is given a directory of sources;
* `exists_run_unrestricted` — a directory without source files restricts nothing.
-/

/-! ### What a model lists -/

/-- That a model lists what some files declare outside of messages. -/
structure Api.Lists (a : Api) (files : List FileDecl) : Prop where
  services : a.services = files.flatMap fun f => f.services.map f.serviceId
  messages : a.messages = files.flatMap FileDecl.topMessages
  enums : a.enums = files.flatMap FileDecl.topEnums

/-- A message outside of messages is declared. -/
theorem FileDecl.exists_of_mem_topMessages {f : FileDecl} {id : String} (h : id ∈ f.topMessages) :
    ∃ d ∈ f.declaredMessages, d.id = id := by
  obtain ⟨m, hm, rfl⟩ := List.mem_map.1 h
  exact ⟨_, declared_mem_declaredMessagesOf f.package none hm, rfl⟩

/-- The enums that a file lists are declared by it. -/
theorem FileDecl.exists_of_mem_topEnums {f : FileDecl} {id : String} (h : id ∈ f.topEnums) :
    ∃ d ∈ f.declaredEnums, d.id = id := by
  obtain ⟨e, he, rfl⟩ := List.mem_map.1 h
  exact ⟨_, List.mem_append.2 (.inr (List.mem_map.2 ⟨e, he, rfl⟩)), rfl⟩

/-- A model lists all that the files to generate declare outside of messages. -/
theorem lists_of_buildApi {set : DescriptorSet} {options : BuildOptions} {b : ApiBuild}
    (hb : buildApi set options = .ok b) :
    ∃ targets, set.targets options.files = .ok targets ∧ b.api.Lists targets := by
  obtain ⟨targets, ctx, htargets, hregister, -, rfl⟩ := buildApi_eq_ok_iff.1 hb
  refine ⟨targets, htargets, ?_⟩
  -- The files are among those that are registered, so that none of their types is missing.
  have hsource : ∀ f ∈ targets, f ∈ (set.preparation options targets).sources := fun f hf =>
    List.mem_append_left _ (DescriptorSet.targets_subset htargets hf)
  constructor
  case services =>
    refine (Api.services_annotate _ _ _).trans ?_
    show [] ++ (targets.flatMap FileDecl.declaredServices).map (·.id) = _
    rw [List.nil_append, List.map_flatMap]
    simp only [FileDecl.declaredServices, List.map_map]
    rfl
  case messages =>
    refine (Api.messages_annotate _ _ _).trans (List.filter_eq_self.2 fun id hid => ?_)
    obtain ⟨f, hf, hid⟩ := List.mem_flatMap.1 hid
    obtain ⟨d, hd, rfl⟩ := f.exists_of_mem_topMessages hid
    rw [contains_messages_registerTypes hregister, Bool.or_eq_true]
    exact .inl
      (List.any_eq_true.2 ⟨d, List.mem_flatMap.2 ⟨f, hsource f hf, hd⟩, decide_eq_true rfl⟩)
  case enums =>
    refine (Api.enums_annotate _ _ _).trans (List.filter_eq_self.2 fun id hid => ?_)
    obtain ⟨f, hf, hid⟩ := List.mem_flatMap.1 hid
    obtain ⟨d, hd, rfl⟩ := f.exists_of_mem_topEnums hid
    rw [contains_enums_registerTypes hregister, Bool.or_eq_true]
    exact .inl
      (List.any_eq_true.2 ⟨d, List.mem_flatMap.2 ⟨f, hsource f hf, hd⟩, decide_eq_true rfl⟩)

/-! ### What a run requests -/

/-- The paths that a run requests where some files are found below its directory of sources: those
    of the command line and those of the source files among them. -/
def ModelOptions.Requests (o : ModelOptions) (found : List FoundFile) (path : String) : Prop :=
  path ∈ o.files ∨ ∃ file ∈ found, Path.isProtoFile file.name = true ∧ file.path = path

/-- A path is requested if it is named or found. -/
theorem mem_requested_iff {o : ModelOptions} {found : List FoundFile} {path : String} :
    path ∈ o.files ++ sourcePaths found ↔ o.Requests found path := by
  unfold ModelOptions.Requests sourcePaths
  simp [List.mem_mergeSort, and_assoc]

/-- The files to generate are files of the set. If anything is requested they are the files whose
    names requested paths end with; otherwise they are all files. -/
theorem mem_targets_of_requests {o : ModelOptions} {found : List FoundFile} {set : DescriptorSet}
    {targets : List FileDecl} (h : set.targets (o.files ++ sourcePaths found) = .ok targets) :
    targets ⊆ set.files ∧
      ((∃ path, o.Requests found path) → ∀ f ∈ targets, ∃ path, o.Requests found path ∧
        f.IsMeant path) ∧
      ((¬∃ path, o.Requests found path) → targets = set.files) := by
  refine ⟨DescriptorSet.targets_subset h, fun hsome f hf => ?_, fun hnone => ?_⟩
  · obtain ⟨first, hfirst⟩ := hsome
    have hne : o.files ++ sourcePaths found ≠ [] := List.ne_nil_of_mem (mem_requested_iff.2 hfirst)
    obtain ⟨-, rfl⟩ := (DescriptorSet.targets_eq_ok_iff hne).1 h
    obtain ⟨path, hpath, hmeant⟩ := List.mem_filterMap.1 (mem_of_mem_foldl_addNew hf)
    refine ⟨path, mem_requested_iff.1 hpath, FileDecl.matches_eq_true_iff.1 ?_⟩
    exact List.find?_some (p := fun f : FileDecl => f.matches path) hmeant
  · have hnil : o.files ++ sourcePaths found = [] :=
      List.eq_nil_iff_forall_not_mem.2 fun path hpath => hnone ⟨path, mem_requested_iff.1 hpath⟩
    rw [hnil] at h
    exact (Except.ok.inj h).symm

/-! ### Runs -/

/-- A run that is given a directory of sources and ends well hands over a model that lists what the
    files to generate declare outside of messages. Each of these files is requested, by its name at
    the end of a path of the command line or of a source file below the directory, if there is any
    such path. If there is none, all files are generated. -/
theorem runCommand_sourceDirectory {args : List String} {o : ModelOptions} {directory : String}
    (hargs : Request.ofArguments args = .model o) (hdirectory : o.sourceDirectory? = some directory)
    {t t' : FileTree} {r : Report} (hrun : runCommand args t = (.finished r, t'))
    (hcode : (Outcome.finished r).exitCode = 0) :
    ∃ found set options b targets, t.filesUnder directory = .ok found ∧
      o.Finds (t.inputs o) set options ∧
      buildApi set options = .ok b ∧ o.HandsOver t' r (o.text b) ∧ b.api.Lists targets ∧
        targets ⊆ set.files ∧
      ((∃ path, o.Requests found path) → ∀ f ∈ targets, ∃ path, o.Requests found path ∧
        f.IsMeant path) ∧
      ((¬∃ path, o.Requests found path) → targets = set.files) := by
  have hsucceeds := exitCode_eq_zero_iff.1 hcode
  have hrun' := (runCommand_eq_finished_iff hargs).1 hrun
  obtain ⟨b, hb, -, -⟩ := ModelOptions.exists_build_of_run hrun' hsucceeds
  have hover := ModelOptions.handsOver_of_run hb hrun' hsucceeds rfl rfl rfl rfl
  obtain ⟨set, options, hfinds, hbuild⟩ := ModelOptions.build_eq_ok_iff.1 hb
  obtain ⟨targets, htargets, hlists⟩ := lists_of_buildApi hbuild
  -- With a directory the requested paths are those of the command line and those found below it.
  have hfiles := hfinds.files
  unfold FileTree.inputs at hfiles
  simp only [hdirectory, Option.map_some] at hfiles
  obtain ⟨found, hfound, hfiles⟩ := hfiles
  rw [hfiles] at htargets
  obtain ⟨hset, hrequested, hall⟩ := mem_targets_of_requests htargets
  exact ⟨found, set, options, b, targets, hfound, hfinds, hbuild, hover, hlists, hset,
    hrequested, hall⟩

/-! ### Two files of furniture -/

/-- A descriptor set with two files that declare an enum each, as it is written. -/
def furnitureJson : Json :=
  .object [("file", .array [
    .object [("name", .string "shelf.proto"), ("package", .string "lib"),
      ("enumType", .array [.object [("name", .string "Shelf")]])],
    .object [("name", .string "desk.proto"), ("package", .string "lib"),
      ("enumType", .array [.object [("name", .string "Desk")]])]])]

/-- The same set. -/
def furnitureSet : DescriptorSet where
  files := [
    { name? := some "shelf.proto", package? := some "lib", enums := [{ name? := some "Shelf" }] },
    { name? := some "desk.proto", package? := some "lib", enums := [{ name? := some "Desk" }] }]

theorem parseDescriptorSet_furnitureJson :
    parseDescriptorSet furnitureJson.compact = .ok furnitureSet := by
  have hplain : furnitureJson.Plain := by
    simp [furnitureJson, Json.Plain, Json.PlainItems, Json.PlainMembers]
  unfold parseDescriptorSet Decoder.ofText
  rw [Json.ofText_compact hplain]
  rfl

/-- A working directory with the set and one more file. -/
def furnitureTree (path : String) : FileTree :=
  .ofFiles [("set.json", furnitureJson.compact), (path, "")]

/-- A command line that asks for a model of the sources below a directory. -/
def furnitureArguments : List String :=
  ["model", "--descriptor", "set.json", "--source-dir", "protos"]

/-- What it asks for. -/
def furnitureOptions : ModelOptions :=
  { descriptor := "set.json", sourceDirectory? := some "protos" }

theorem ofArguments_furniture :
    Request.ofArguments furnitureArguments = .model furnitureOptions := by decide +kernel

/-- What comes of it, if the set can be built for the files that are found. -/
theorem runCommand_furniture {path : String} {found : List FoundFile} {targets : List FileDecl}
    (hset : (furnitureTree path).readText "set.json" = .ok furnitureJson.compact)
    (hfound : (furnitureTree path).filesUnder "protos" = .ok found)
    (htargets : furnitureSet.targets (sourcePaths found) = .ok targets)
    (hregister : (registerTypes
        { diagnostics :=
            (furnitureSet.preparation { files := sourcePaths found } targets).unavailable }
        (furnitureSet.preparation { files := sourcePaths found } targets).sources).2 = none) :
    furnitureOptions.build ((furnitureTree path).inputs furnitureOptions)
        = .ok (furnitureSet.outcome { files := sourcePaths found } targets) ∧
      runCommand furnitureArguments (furnitureTree path) = (.finished (furnitureOptions.report
        (furnitureSet.outcome { files := sourcePaths found } targets)), furnitureTree path) := by
  -- Without messages there is no reference that could fail.
  have hmessages : ∀ f ∈ targets, f.messages = [] := fun f hf => by
    have hall : ∀ f ∈ furnitureSet.files, f.messages = [] := by simp [furnitureSet]
    exact hall f (DescriptorSet.targets_subset htargets hf)
  have hfinds : furnitureOptions.Finds ((furnitureTree path).inputs furnitureOptions) furnitureSet
      { files := sourcePaths found } := {
    descriptor := ⟨_, hset, parseDescriptorSet_furnitureJson⟩
    config := rfl
    files := ⟨found, hfound, rfl⟩
    bundledMixins := rfl }
  have hb := ModelOptions.build_eq_ok_iff.2 ⟨_, _, hfinds,
    buildApi_of_no_messages htargets hregister hmessages⟩
  refine ⟨hb, ?_⟩
  rw [runCommand_eq_finished_iff ofArguments_furniture]
  simp only [ModelOptions.run, hb]
  rfl

/-- Where a source file is found, only what the file of the set with that name declares is
    listed. -/
theorem runCommand_shelf :
    ∃ r, runCommand furnitureArguments (furnitureTree "protos/lib/shelf.proto")
        = (.finished r, furnitureTree "protos/lib/shelf.proto") ∧
          (Outcome.finished r).exitCode = 0 ∧
      ∃ found set options b targets, (furnitureTree "protos/lib/shelf.proto").filesUnder "protos"
          = .ok found ∧
        buildApi set options = .ok b ∧ b.api.Lists targets ∧
        (∀ f ∈ targets, ∃ path, furnitureOptions.Requests found path ∧ f.IsMeant path) ∧
        b.api.enums = [".lib.Shelf"] := by
  have hfound : (furnitureTree "protos/lib/shelf.proto").filesUnder "protos"
      = .ok [{ name := "shelf.proto", path := "lib/shelf.proto" }] := by decide +kernel
  have hpaths : sourcePaths [{ name := "shelf.proto", path := "lib/shelf.proto" }]
      = ["lib/shelf.proto"] := by
    decide +kernel
  have htargets :
      furnitureSet.targets (sourcePaths [{ name := "shelf.proto", path := "lib/shelf.proto" }])
      = .ok (furnitureSet.files.take 1) := by
    rw [hpaths]
    rfl
  obtain ⟨hb, hrun⟩ := runCommand_furniture (by decide +kernel) hfound htargets rfl
  refine ⟨_, hrun, rfl, ?_⟩
  obtain ⟨found, set, options, b, targets, hfound', hfinds, hbuild, -, hlists, -, hrequested, -⟩ :=
    runCommand_sourceDirectory ofArguments_furniture rfl hrun rfl
  -- Both descriptions are of the one run, so they found and built the same.
  obtain rfl := Except.ok.inj (hfound.symm.trans hfound')
  obtain rfl :=
    Except.ok.inj (hb.symm.trans (ModelOptions.build_eq_ok_iff.2 ⟨set, options, hfinds, hbuild⟩))
  refine ⟨_, set, options, _, targets, hfound, hbuild, hlists,
    hrequested ⟨"lib/shelf.proto", ?_⟩, by decide +kernel⟩
  exact .inr ⟨_, List.mem_singleton_self _, by decide +kernel, rfl⟩

/-- A directory without source files restricts nothing: what all files of the set declare is
    listed. -/
theorem exists_run_unrestricted :
    ∃ r found b, runCommand furnitureArguments (furnitureTree "protos/README.md")
        = (.finished r, furnitureTree "protos/README.md") ∧ (Outcome.finished r).exitCode = 0 ∧
      (furnitureTree "protos/README.md").filesUnder "protos" = .ok found ∧
      (∀ path, ¬furnitureOptions.Requests found path) ∧
      furnitureOptions.build ((furnitureTree "protos/README.md").inputs furnitureOptions) = .ok b ∧
      r.output = furnitureOptions.text b ++ "\n" ∧ b.api.enums = [".lib.Shelf", ".lib.Desk"] := by
  have hfound : (furnitureTree "protos/README.md").filesUnder "protos"
      = .ok [{ name := "README.md", path := "README.md" }] := by decide +kernel
  have hpaths : sourcePaths [{ name := "README.md", path := "README.md" }] = [] := by decide +kernel
  have htargets : furnitureSet.targets (sourcePaths [{ name := "README.md", path := "README.md" }])
      = .ok furnitureSet.files := by
    rw [hpaths]
    rfl
  obtain ⟨hb, hrun⟩ := runCommand_furniture (by decide +kernel) hfound htargets rfl
  refine ⟨_, _, _, hrun, rfl, hfound, fun path hrequests => ?_, hb, rfl, by decide +kernel⟩
  have hpath : path ∈ ([] : List String) := hpaths ▸ mem_requested_iff.2 hrequests
  exact absurd hpath List.not_mem_nil

end ProtoApi
