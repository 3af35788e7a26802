import ProtoApi.Command.Run
import ProtoApi.Proofs.Command.FileTree
import ProtoApi.Proofs.Descriptor.Width

namespace ProtoApi

/-!
# What a run of the command hands over

* `ModelOptions.Finds`, `build_eq_ok_iff` — what a model is built from;
* `ModelOptions.textDecoder`, `ofText_text` — the text of a build is read back as its model, with
  the diagnostics beside it or without them;
* `ModelOptions.HandsOver`, `ModelOptions.Delivers` — what a run leaves behind that ends well;
* `files_of_run`, `delivers_of_run` — a run that fails leaves nothing behind, and any other delivers
  its model;
* `runCommand_model` — so it is for every command line that asks for a model, such as
  `clockArguments`.
-/

/-! ### What a model is built from -/

/-- The descriptor set and the options of a build, read from what is found at the paths of the
    command. -/
structure ModelOptions.Finds (o : ModelOptions) (inputs : ModelInputs) (set : DescriptorSet)
    (options : BuildOptions) : Prop where
  descriptor : ∃ text, inputs.descriptor = .ok text ∧ parseDescriptorSet text = .ok set
  config : match inputs.config? with
    | none => options.config? = none
    | some read => ∃ text config, read = .ok text ∧ parseServiceConfig text = .ok config ∧
        options.config? = some config
  files : match inputs.sources? with
    | none => options.files = o.files
    | some read => ∃ found, read = .ok found ∧ options.files = o.files ++ sourcePaths found
  bundledMixins : options.bundledMixins = o.bundledMixins

namespace ModelOptions

variable {o : ModelOptions} {inputs : ModelInputs} {b : ApiBuild}

/-- The set is read if its file is and what stands in it can be parsed. -/
theorem readDescriptorSet_eq_ok_iff {set : DescriptorSet} :
    o.readDescriptorSet inputs = .ok set ↔
      ∃ text, inputs.descriptor = .ok text ∧ parseDescriptorSet text = .ok set := by
  unfold readDescriptorSet
  rw [bind_eq_ok_iff]
  simp only [mapError_eq_ok_iff]

/-- Without a file there is no configuration, which is no error. A file that is named must be read
    and parsed. -/
theorem readConfig_eq_ok_iff {config? : Option ServiceConfig} :
    o.readConfig inputs = .ok config? ↔
      match inputs.config? with
      | none => config? = none
      | some read => ∃ text config, read = .ok text ∧ parseServiceConfig text = .ok config ∧
        config? = some config := by
  unfold readConfig
  cases inputs.config? with
  | none => simp [eq_comm]
  | some read =>
    simp only [bind_eq_ok_iff, mapError_eq_ok_iff, exists_and_left]
    refine exists_congr fun text => and_congr_right fun _ => ?_
    show ((parseServiceConfig text).mapError _).map some = _ ↔ _
    rw [map_eq_ok_iff]
    simp only [mapError_eq_ok_iff]
    exact exists_congr fun config => and_congr_right fun _ => eq_comm

/-- The files to generate are those that are named, and behind them those found in the source
    directory. -/
theorem requestedFiles_eq_ok_iff {files : List String} :
    o.requestedFiles inputs = .ok files ↔
      match inputs.sources? with
      | none => files = o.files
      | some read => ∃ found, read = .ok found ∧ files = o.files ++ sourcePaths found := by
  unfold requestedFiles
  cases inputs.sources? with
  | none => simp [eq_comm]
  | some read => cases read <;> simp [eq_comm]

/-- A model is built if its inputs are found and the build succeeds. -/
theorem build_eq_ok_iff :
    o.build inputs = .ok b ↔ ∃ set options, o.Finds inputs set options ∧
      buildApi set options = .ok b := by
  unfold build
  simp only [bind_eq_ok_iff, mapError_eq_ok_iff]
  constructor
  · rintro ⟨set, hset, config?, hconfig, files, hfiles, hb⟩
    refine ⟨set, _, ⟨readDescriptorSet_eq_ok_iff.1 hset, ?_, ?_, ?_⟩, hb⟩
    · exact readConfig_eq_ok_iff.1 hconfig
    · exact requestedFiles_eq_ok_iff.1 hfiles
    · rfl
  · rintro ⟨set, ⟨files, config?, bundledMixins⟩, ⟨hset, hconfig, hfiles, hbundled⟩, hb⟩
    refine ⟨set, readDescriptorSet_eq_ok_iff.2 hset, config?, ?_, files, ?_, ?_⟩
    · exact readConfig_eq_ok_iff.2 hconfig
    · exact requestedFiles_eq_ok_iff.2 hfiles
    · rw [← hbundled]
      exact hb

/-- Where a model is written to and what is printed beside it has no part in what is built. -/
theorem Finds.congr {o' : ModelOptions} (hfiles : o'.files = o.files)
    (hbundled : o'.bundledMixins = o.bundledMixins) {set : DescriptorSet} {options : BuildOptions}
    (h : o.Finds inputs set options) : o'.Finds inputs set options where
  descriptor := h.descriptor
  config := h.config
  files := by
    rw [hfiles]
    exact h.files
  bundledMixins := h.bundledMixins.trans hbundled.symm

/-! ### Texts of builds -/

end ModelOptions

/-- The place of the model in the written form of a build. -/
def ApiBuild.apiSlot : Slot Api := .required "api" Api.decoder

/-- Reads the model from the written form of a build and passes over the diagnostics. -/
def ApiBuild.apiDecoder : Decoder Api :=
  Decoder.record "ApiBuild" (.field apiSlot .none) fun (api, ()) => api

/-- The only numbers in a diagnostic are those of a path, which have 32 bits. -/
theorem Diagnostic.plain_toJson (d : Diagnostic) : d.toJson.Plain := by
  cases d with
  | unknownDocumentationPath file path =>
    have hpath : Decoder.ReadsBack (Decoder.list Decoder.int32) 1
        (.ofList (fun n : Int32 => .ofInt n.toInt) path)
        path := Decoder.readsBack_list fun n _ => Decoder.readsBack_int32 n
    exact ⟨trivial, trivial, hpath.plain, trivial⟩
  | methodDropped | missingSymbol | undefinedFieldType
    | invalidOverride => exact ⟨trivial, trivial, trivial, trivial⟩
  | mixinUnavailable => exact ⟨trivial, trivial, trivial⟩

namespace ApiBuild

variable {b : ApiBuild}

/-- The model is read back from the written form of a build. -/
theorem readsBack_api (h : b.api.registry.Fits) :
    Decoder.ReadsBack apiDecoder 8 b.toJson b.api where
  plain := by
    have hapi : Decoder.ReadsBack Api.decoder 7 b.api.toJson b.api := Api.readsBack h
    refine ⟨hapi.plain, ?_, trivial⟩
    show Json.PlainItems (b.diagnostics.map Diagnostic.toJson)
    rw [Json.plainItems_iff]
    intro v hv
    obtain ⟨d, -, rfl⟩ := List.mem_map.1 hv
    exact d.plain_toJson
  decode form room hroom := by
    show Decoder.enter room _ = _
    apply Decoder.enter_eq_ok hroom
    intro room hroom
    have hapi : apiSlot.decode form room b.api.toJson.toTree = .ok b.api :=
      (Api.readsBack h).decode form room hroom
    have hskip : Decoder.passOver (Json.ofList Diagnostic.toJson b.diagnostics).toTree
        = .ok () := by
      unfold Decoder.passOver
      rw [Json.skip_toTree]
    -- The first member fills the only field, which passes the second one on.
    have htake : (Fields.field apiSlot .none).takeAll form room
        (Json.memberTrees [("api", b.api.toJson),
          ("diagnostics", .ofList Diagnostic.toJson b.diagnostics)])
          = .ok (.field { apiSlot with value := some b.api } .none) := by
      have hfill := Fields.take_label rfl hapi .none
      have hpass : Slot.answers { apiSlot with value := some b.api } "diagnostics" = false := by
        simp [Slot.answers, apiSlot, Slot.required]
      rw [Json.memberTrees, Fields.takeAll_cons]
      show (Fields.take form room apiSlot.label _ _ >>= fun fields => _) = _
      rw [hfill]
      show Fields.takeAll form room _
        (Json.memberTrees [("diagnostics", .ofList Diagnostic.toJson b.diagnostics)]) = _
      rw [Json.memberTrees, Fields.takeAll_cons, Fields.take_field hpass, Fields.take, hskip]
      rfl
    rw [htake]
    rfl

end ApiBuild

namespace ModelOptions

variable {o : ModelOptions} {t : FileTree} {b : ApiBuild}

/-- Reads the model from the text of a build. -/
def textDecoder (o : ModelOptions) : Decoder Api :=
  if o.withDiagnostics then ApiBuild.apiDecoder else Api.decoder

/-- The text of a build is read back as its model. -/
theorem ofText_text (o : ModelOptions) (h : b.api.registry.Fits) :
    o.textDecoder.ofText (o.text b) = .ok b.api := by
  unfold textDecoder text
  split
  · exact ((ApiBuild.readsBack_api h).ofText (by decide)).2
  · have hread : Decoder.ReadsBack Api.decoder 7 b.api.toJson b.api := Api.readsBack h
    exact (hread.ofText (by decide)).2

/-! ### What is left behind -/

/-- A text is handed over: it is in the file that is asked for, or else it is what is printed. -/
def HandsOver (o : ModelOptions) (t : FileTree) (r : Report) (text : String) : Prop :=
  match o.out? with
  | some path => t.readText path = .ok text
  | none => r.output = text ++ "\n"

/-- What a run leaves behind that starts with the tree `t`, ends with the tree `t'` and the report
    `r`, and has built `b`. -/
structure Delivers (o : ModelOptions) (t t' : FileTree) (r : Report) (b : ApiBuild)
    (text : String) : Prop where
  handsOver : o.HandsOver t' r text
  decodes : o.textDecoder.ofText text = .ok b.api
  /-- One line for each diagnostic, behind the digest if that has no place on standard output. -/
  errors : r.errors = (if o.digest = true ∧ o.out? = none then [b.api.digest] else [])
    ++ b.diagnostics.map fun d => "skipped: " ++ d.message
  /-- Beside a file the digest stands on the last line of standard output. -/
  digest : o.digest = true → o.out?.isSome = true → ∃ before,
      r.output = before ++ "\n" ++ b.api.digest ++ "\n"
  /-- No other file is touched. -/
  others : match o.out? with
    | some path => ∃ p, t'.resolve path = .ok p ∧ ∀ q, q ≠ p → t'.file? q = t.file? q
    | none => t' = t

end ModelOptions

/-! ### Storing a model -/

namespace FileTree

variable {t t' : FileTree} {path text : String}

/-- Making the directory for a file changes no file. -/
theorem files_makeParent (t : FileTree) (path : String) :
    (t.makeParent path).1.files = t.files := by
  unfold makeParent
  split
  · rfl
  · exact files_makeDirectories t _

/-- Where a file cannot be stored none is changed. -/
theorem files_of_store {f : Failure} (h : t.store path text = (t', some f)) :
    t'.files = t.files := by
  have hparent := files_makeParent t path
  unfold store at h
  split at h
  · next made e hmade =>
    obtain ⟨rfl, -⟩ := Prod.mk.inj h
    rwa [hmade] at hparent
  · next made hmade =>
    split at h
    · cases (Prod.mk.inj h).2
    · obtain ⟨rfl, -⟩ := Prod.mk.inj h
      rwa [hmade] at hparent

/-- A file that is stored is read again, and other files stay as they are. -/
theorem readText_of_store (h : t.store path text = (t', none)) :
    t'.readText path = .ok text ∧ ∃ p, t'.resolve path = .ok p ∧ ∀ q, q ≠ p →
      t'.file? q = t.file? q := by
  have hparent := files_makeParent t path
  unfold store at h
  split at h
  · cases (Prod.mk.inj h).2
  · next made hmade =>
    split at h
    · next written hwrite =>
      obtain ⟨rfl, -⟩ := Prod.mk.inj h
      obtain ⟨hread, p, hp, hothers⟩ := readText_of_writeText hwrite
      refine ⟨hread, p, hp, fun q hq => (hothers q hq).trans ?_⟩
      rw [hmade] at hparent
      unfold file?
      rw [hparent]
    · cases (Prod.mk.inj h).2

end FileTree

/-! ### Runs -/

namespace ModelOptions

variable {o : ModelOptions} {t t' : FileTree} {r : Report}

/-- A run that fails prints nothing on standard output and changes no file. -/
theorem files_of_run (h : o.run t = (r, t')) (hfails : r.succeeded = false) :
    r.output = "" ∧ t'.files = t.files := by
  unfold run at h
  split at h
  · obtain ⟨rfl, rfl⟩ := Prod.mk.inj h
    exact ⟨rfl, rfl⟩
  · next b hb =>
    split at h
    · next t₁ f hstore =>
      obtain ⟨rfl, rfl⟩ := Prod.mk.inj h
      refine ⟨rfl, ?_⟩
      -- Only a run that writes to a file can fail to store the model.
      unfold store at hstore
      split at hstore
      · exact FileTree.files_of_store hstore
      · cases (Prod.mk.inj hstore).2
    · obtain ⟨rfl, -⟩ := Prod.mk.inj h
      unfold report at hfails
      split at hfails <;> cases hfails

/-- A run that ends well has built a model and stored it. -/
theorem exists_build_of_run (h : o.run t = (r, t')) (hsucceeds : r.succeeded = true) :
    ∃ b, o.build (t.inputs o) = .ok b ∧ o.store b t = (t', none) ∧ r = o.report b := by
  unfold run at h
  split at h
  · obtain ⟨rfl, -⟩ := Prod.mk.inj h
    cases hsucceeds
  · next b hb =>
    split at h
    · obtain ⟨rfl, -⟩ := Prod.mk.inj h
      cases hsucceeds
    · next t₁ hstore =>
      obtain ⟨rfl, rfl⟩ := Prod.mk.inj h
      exact ⟨b, hb, hstore, rfl⟩

/-- The digest stands on the last line of what is printed beside a file. -/
theorem exists_output_report {path : String} (hout : o.out? = some path) (hdigest : o.digest = true)
    (b : ApiBuild) : ∃ before, (o.report b).output = before ++ "\n" ++ b.api.digest ++ "\n" := by
  refine ⟨"  → " ++ path ++ "\n" ++ b.stats, ?_⟩
  unfold report digestLines
  rw [hout, if_pos hdigest]
  simp [String.join, String.append_assoc]

/-- What a run that ends well leaves behind, where the model can be read back. -/
theorem delivers_of_run (h : o.run t = (r, t')) (hsucceeds : r.succeeded = true)
    (hfits : ∀ b, o.build (t.inputs o) = .ok b → b.api.registry.Fits) :
    ∃ b, o.build (t.inputs o) = .ok b ∧ o.Delivers t t' r b (o.text b) := by
  obtain ⟨b, hb, hstore, rfl⟩ := exists_build_of_run h hsucceeds
  refine ⟨b, hb, ?_⟩
  have hdecodes := o.ofText_text (hfits b hb)
  unfold store at hstore
  -- The model goes to the file, if one is named, and then standard output has room for a digest.
  -- Otherwise the model goes to standard output and the digest to standard error.
  cases hout : o.out? with
  | some path =>
    rw [hout] at hstore
    obtain ⟨hread, hothers⟩ := FileTree.readText_of_store hstore
    refine ⟨?_, hdecodes, ?_, fun hdigest _ => exists_output_report hout hdigest b, ?_⟩
    · unfold HandsOver
      rw [hout]
      exact hread
    · unfold report
      simp [hout, ApiBuild.skipped]
    · rw [hout]
      exact hothers
  | none =>
    rw [hout] at hstore
    obtain ⟨rfl, -⟩ := Prod.mk.inj hstore
    refine ⟨?_, hdecodes, ?_, ?_, ?_⟩
    · unfold HandsOver report
      simp only [hout]
    · unfold report digestLines
      simp [hout, ApiBuild.skipped]
    · rw [hout]
      nofun
    · rw [hout]

/-- Two runs that find the same and are to build the same way hand over the same text, wherever each
    of them leaves it. -/
theorem handsOver_of_run {o' : ModelOptions} {t₁ t₁' : FileTree} {r' : Report} {b : ApiBuild}
    (hb : o.build (t.inputs o) = .ok b) (h : o'.run t₁ = (r', t₁'))
    (hsucceeds : r'.succeeded = true) (hinputs : t₁.inputs o' = t.inputs o)
    (hfiles : o'.files = o.files) (hbundled : o'.bundledMixins = o.bundledMixins)
    (hdiagnostics : o'.withDiagnostics = o.withDiagnostics) : o'.HandsOver t₁' r' (o.text b) := by
  obtain ⟨b', hb', hstore, rfl⟩ := exists_build_of_run h hsucceeds
  -- What is built does not depend on what the two differ in.
  have hsame : o.build (t.inputs o) = .ok b' := by
    rw [hinputs] at hb'
    obtain ⟨set, options, hfinds, hbuild⟩ := build_eq_ok_iff.1 hb'
    exact build_eq_ok_iff.2 ⟨set, options, hfinds.congr hfiles.symm hbundled.symm, hbuild⟩
  obtain rfl : b = b' := Except.ok.inj (hb.symm.trans hsame)
  have htext : o'.text b = o.text b := by
    unfold text
    rw [hdiagnostics]
  unfold HandsOver
  unfold store at hstore
  cases hout : o'.out? with
  | some path =>
    rw [hout, htext] at hstore
    exact (FileTree.readText_of_store hstore).1
  | none =>
    unfold report
    simp only [hout, htext]

end ModelOptions

/-! ### Command lines -/

/-- The positions in a model fit 64 bits where the text of the descriptor set has fewer than
    `2 ^ 64` characters, as all texts have. -/
theorem fits_of_build {o : ModelOptions} {inputs : ModelInputs}
    (hsize : ∀ text, inputs.descriptor = .ok text → text.length < UInt64.size) {b : ApiBuild}
    (hb : o.build inputs = .ok b) : b.api.registry.Fits := by
  obtain ⟨set, options, hfinds, hbuild⟩ := ModelOptions.build_eq_ok_iff.1 hb
  obtain ⟨text, htext, hset⟩ := hfinds.descriptor
  refine fits_of_buildApi ?_ hbuild
  intro f hf d hd
  exact (isNarrow_of_parseDescriptorSet hset f hf d hd).trans (hsize text htext)

/-- The exit code is zero if the run has succeeded. -/
theorem exitCode_eq_zero_iff {r : Report} :
    (Outcome.finished r).exitCode = 0 ↔ r.succeeded = true := by
  unfold Outcome.exitCode
  simp

/-- A command line that asks for a model comes to the run that its options describe. -/
theorem runCommand_eq_finished_iff {args : List String} {o : ModelOptions}
    (hargs : Request.ofArguments args = .model o) {t t' : FileTree} {r : Report} :
    runCommand args t = (.finished r, t') ↔ o.run t = (r, t') := by
  unfold runCommand
  rw [hargs]
  constructor
  · intro h
    obtain ⟨hr, ht⟩ := Prod.mk.inj h
    exact Prod.ext (Outcome.finished.inj hr) ht
  · intro h
    simp only [h]

/-- Every command line that asks for a model either fails, with nothing on standard output and no
    file changed, or delivers the model of what it finds. Its text does not depend on where it is
    left. -/
theorem runCommand_model {args : List String} {o : ModelOptions}
    (hargs : Request.ofArguments args = .model o) {t : FileTree}
    (hsize : ∀ text, t.readText o.descriptor = .ok text → text.length < UInt64.size) :
    ∃ r t', runCommand args t = (.finished r, t') ∧
      ((Outcome.finished r).exitCode ≠ 0 → r.output = "" ∧ t'.files = t.files) ∧
      ((Outcome.finished r).exitCode = 0 → ∃ set options b text,
        o.Finds (t.inputs o) set options ∧ buildApi set options = .ok b ∧ o.Delivers t t' r b text ∧
        ∀ args' o' t₁ r' t₁', Request.ofArguments args' = .model o' → t₁.inputs o' = t.inputs o →
          o'.files = o.files → o'.bundledMixins = o.bundledMixins →
            o'.withDiagnostics = o.withDiagnostics →
          runCommand args' t₁ = (.finished r', t₁') → (Outcome.finished r').exitCode = 0 →
          o'.HandsOver t₁' r' text) := by
  refine ⟨_, _, (runCommand_eq_finished_iff hargs).2 rfl, ?_, ?_⟩
  · intro hcode
    rw [ne_eq, exitCode_eq_zero_iff, Bool.not_eq_true] at hcode
    exact ModelOptions.files_of_run rfl hcode
  · intro hcode
    rw [exitCode_eq_zero_iff] at hcode
    -- What has been built is small enough to be read back, since the descriptor that was read is.
    obtain ⟨b, hb, hdelivers⟩ := ModelOptions.delivers_of_run rfl hcode fun b hb =>
      fits_of_build hsize hb
    obtain ⟨set, options, hfinds, hbuild⟩ := ModelOptions.build_eq_ok_iff.1 hb
    refine ⟨set, options, b, o.text b, hfinds, hbuild, hdelivers, ?_⟩
    intro args' o' t₁ r' t₁' hargs' hinputs hfiles hbundled hdiagnostics hrun' hcode'
    -- The other run is the same build with another place for its text.
    exact ModelOptions.handsOver_of_run hb ((runCommand_eq_finished_iff hargs').1 hrun')
      (exitCode_eq_zero_iff.1 hcode') hinputs hfiles hbundled hdiagnostics

/-- A descriptor set with a service whose only method is bound to nothing, as it is written. -/
def clockJson : Json :=
  .object [("file", .array [
    .object [("name", .string "clock.proto"), ("package", .string "clock"),
      ("service", .array [
        .object [("name", .string "Clock"),
          ("method", .array [.object [("name", .string "Stop")]])]])]])]

/-- The same set. -/
def clockSet : DescriptorSet where
  files := [
    { name? := some "clock.proto"
      package? := some "clock"
      services := [{ name? := some "Clock", methods := [{ name? := some "Stop" }] }] }]

/-- The text of the set is parsed as the set. -/
theorem parseDescriptorSet_clockJson : parseDescriptorSet clockJson.compact = .ok clockSet := by
  have hplain : clockJson.Plain := by
    simp [clockJson, Json.Plain, Json.PlainItems, Json.PlainMembers]
  unfold parseDescriptorSet Decoder.ofText
  rw [Json.ofText_compact hplain]
  rfl

/-- A working directory with the set. -/
def clockTree : FileTree := .ofFiles [("set.json", clockJson.compact)]

theorem readText_clockTree : clockTree.readText "set.json" = .ok clockJson.compact := by
  decide +kernel

/-- A command line that asks for the model and its digest. -/
def clockArguments : List String := ["model", "--descriptor", "set.json", "--digest"]

/-- What it asks for, with a file for the model or without one. -/
def clockOptions (out? : Option String) : ModelOptions :=
  { descriptor := "set.json", out?, digest := true }

/-- The model, which lacks the method. -/
def clockModel : ApiBuild := clockSet.outcome {} clockSet.files

/-- The model is built, whether or not there is a file for it. -/
theorem build_clock (out? : Option String) :
    (clockOptions out?).build (clockTree.inputs (clockOptions out?)) = .ok clockModel := by
  have hfinds : (clockOptions out?).Finds (clockTree.inputs (clockOptions out?)) clockSet {} :=
    ⟨⟨clockJson.compact, readText_clockTree, parseDescriptorSet_clockJson⟩, rfl, rfl, rfl⟩
  have hb : buildApi clockSet {} = .ok clockModel :=
    buildApi_of_no_messages rfl rfl (by simp [clockSet])
  exact ModelOptions.build_eq_ok_iff.2 ⟨clockSet, {}, hfinds, hb⟩

/-- The text that is read is short. -/
theorem length_clock (text : String) (h : clockTree.readText "set.json" = .ok text) :
    text.length < UInt64.size := by
  obtain rfl := Except.ok.inj (readText_clockTree.symm.trans h)
  decide +kernel

/-- One run stores the model in a directory that is yet to be made and another one prints it. Both
    of them tell of the method that is dropped, and each of them has a place for the digest that the
    model does not take. -/
theorem runCommand_clockTree :
    ∃ r r' t' text api,
      runCommand (clockArguments ++ ["-oout/model.json"]) clockTree = (.finished r, t') ∧
      (Outcome.finished r).exitCode = 0 ∧ t'.readText "out/model.json" = .ok text ∧
      (∃ before, r.output = before ++ "\n" ++ api.digest ++ "\n") ∧
      r.errors
        = ["skipped: method `.clock.Clock.Stop` dropped: missing google.api.http annotation"] ∧
      runCommand clockArguments clockTree = (.finished r', clockTree) ∧
      (Outcome.finished r').exitCode = 0 ∧ r'.output = text ++ "\n" ∧
        r'.errors = api.digest :: r.errors ∧
      Api.decoder.ofText text = .ok api := by
  have hargs : Request.ofArguments (clockArguments ++ ["-oout/model.json"])
      = .model (clockOptions (some "out/model.json")) := by decide +kernel
  have hargs' : Request.ofArguments clockArguments = .model (clockOptions none) := by decide +kernel
  obtain ⟨r, t', hrun, -, hdelivers⟩ := runCommand_model hargs length_clock
  have hcode : (Outcome.finished r).exitCode = 0 := by
    have hr : ((clockOptions (some "out/model.json")).run clockTree).1 = r :=
      congrArg Prod.fst ((runCommand_eq_finished_iff hargs).1 hrun)
    rw [exitCode_eq_zero_iff, ← hr]
    unfold ModelOptions.run
    rw [build_clock]
    decide +kernel
  obtain ⟨set, options, b, text, hfinds, hbuild, h, hsame⟩ := hdelivers hcode
  have hb : b = clockModel := Except.ok.inj
    ((ModelOptions.build_eq_ok_iff.2 ⟨set, options, hfinds, hbuild⟩).symm.trans (build_clock _))
  subst hb
  -- The method without a rule is dropped, and this is all that is reported.
  have hskipped : r.errors
      = ["skipped: method `.clock.Clock.Stop` dropped: missing google.api.http annotation"] :=
    h.errors.trans (by decide +kernel)
  -- The second run leaves the model on standard output.
  have hrun' : runCommand clockArguments clockTree
      = (.finished ((clockOptions none).report clockModel), clockTree) := by
    rw [runCommand_eq_finished_iff hargs']
    simp only [ModelOptions.run, build_clock]
    rfl
  refine ⟨r, _, t', text, clockModel.api, hrun, hcode, h.handsOver, h.digest rfl rfl, hskipped,
    hrun', rfl, ?_, ?_, h.decodes⟩
  · exact hsame clockArguments (clockOptions none) clockTree _ _ hargs' rfl rfl rfl rfl hrun' rfl
  · rw [hskipped]
    show clockModel.api.digest :: clockModel.skipped = _
    exact congrArg _ (by decide +kernel)

end ProtoApi
