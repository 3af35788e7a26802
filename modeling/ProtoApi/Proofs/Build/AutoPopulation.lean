import ProtoApi.Build.AutoPopulation
import ProtoApi.Proofs.Table
import Mathlib.Data.List.Forall2

namespace ProtoApi

/-!
# Which fields clients fill in

The settings of several methods may be about one request, and each of them only adds marks. What a
mark depends on is not changed by marks, so that the settings may be followed in any order.

* `Registry.fills`, `message?_markAutoPopulated` — whether the settings of one method mark a field,
  and what becomes of a message by those of all methods; `markAutoPopulated_eq` says that nothing
  but messages changes;
* `markAutoPopulated_perm` — the order of the settings makes no difference;
* `Registry.AsksToFill`, `Registry.MarksFields`, `marksFields_markAutoPopulated` — a field is marked
  if it was before or some settings ask for it.
-/

/-- The settings of a configuration for its methods. -/
def ServiceConfig.settings (config? : Option ServiceConfig) : List MethodSettings :=
  (config?.map (·.methodSettings)).getD []

namespace Registry

/-! ### Settings of one method -/

/-- Whether the settings of a method mark a field of a message. -/
def fills (r : Registry) (uuid4Fields : NameSet) (id : String) (f : Field)
    (settings : MethodSettings) : Bool :=
  (r.method? ("." ++ settings.selector)).any (·.inputType = id)
    && f.name ∈ settings.autoPopulatedFields && f.qualifies uuid4Fields

/-- Nothing but messages changes. -/
theorem populateListed_eq (r : Registry) (uuid4Fields : NameSet) (settings : MethodSettings) :
    r.populateListed uuid4Fields settings
      = { r with messages := (r.populateListed uuid4Fields settings).messages } := by
  unfold populateListed
  split <;> rfl

/-- Filling in fields adds no message and takes none away. -/
theorem names_populateListed (r : Registry) (uuid4Fields : NameSet) (settings : MethodSettings) :
    (r.populateListed uuid4Fields settings).messages.names = r.messages.names := by
  unfold populateListed
  split
  · rfl
  · exact Table.names_modify r.messages _ _

/-- What becomes of a message by the settings of one method. -/
theorem message?_populateListed (r : Registry) (uuid4Fields : NameSet) (settings : MethodSettings)
    (id : String) :
    (r.populateListed uuid4Fields settings).message? id = (r.message? id).map fun m =>
      { m with fields := m.fields.map fun f =>
          { f with autoPopulated := f.autoPopulated || r.fills uuid4Fields id f settings } } := by
  unfold populateListed
  split
  · next hnone => simp [fills, hnone]
  · next method hmethod =>
    refine (Table.get?_modify_eq_map r.messages method.inputType id _).trans ?_
    congr 1
    funext m
    -- Only the message that the method takes is modified.
    by_cases hid : id = method.inputType
    · rw [if_pos hid]
      congr 1
      refine List.map_congr_left fun f _ => ?_
      have hfills : r.fills uuid4Fields id f settings
          = decide (f.name ∈ settings.autoPopulatedFields ∧ f.qualifies uuid4Fields = true) := by
        simp [fills, hmethod, hid]
      by_cases hf : f.name ∈ settings.autoPopulatedFields ∧ f.qualifies uuid4Fields = true
      · rw [hfills, if_pos hf, decide_eq_true hf, Bool.or_true]
      · rw [hfills, if_neg hf, decide_eq_false hf, Bool.or_false]
    · simp [fills, hmethod, hid, Ne.symm hid]

/-! ### Settings of all methods -/

variable (r : Registry) (uuid4Fields : NameSet)

/-- It changes messages only, for any settings. -/
theorem foldl_populateListed_eq (settings : List MethodSettings) :
    settings.foldl (populateListed uuid4Fields) r
      = { r with messages := (settings.foldl (populateListed uuid4Fields) r).messages } := by
  refine List.foldlRecOn (motive := fun s : Registry => s = { r with
    messages := s.messages }) _ _ rfl ?_
  intro s h settings _
  rw [populateListed_eq, h]

/-- What becomes of a message by the settings of several methods: marks are added up. -/
theorem message?_foldl_populateListed (settings : List MethodSettings) (id : String) :
    (settings.foldl (populateListed uuid4Fields) r).message? id = (r.message? id).map fun m =>
      { m with fields := m.fields.map fun f =>
          { f with
            autoPopulated := f.autoPopulated || settings.any (r.fills uuid4Fields id f) } } := by
  induction settings generalizing r with
  | nil => simp
  | cons first rest ih =>
    -- Neither the methods nor what a mark asks of a field are changed by the first settings.
    have hfills : ∀ f : Field,
        (r.populateListed uuid4Fields first).fills uuid4Fields id f = r.fills uuid4Fields id f := by
      intro f
      rw [populateListed_eq]
      rfl
    have hmark : ∀ (f : Field) (mark : Bool),
        r.fills uuid4Fields id { f with autoPopulated := mark }
        = r.fills uuid4Fields id f := fun f mark => rfl
    rw [List.foldl_cons, ih, message?_populateListed, Option.map_map]
    congr 1
    funext m
    simp [hfills, hmark, Bool.or_assoc]

variable (config? : Option ServiceConfig)

/-- Nothing but messages changes. -/
theorem markAutoPopulated_eq :
    r.markAutoPopulated config? uuid4Fields
      = { r with messages := (r.markAutoPopulated config? uuid4Fields).messages } :=
  foldl_populateListed_eq r uuid4Fields _

/-- So it is for the settings of the configuration. -/
theorem names_markAutoPopulated :
    (r.markAutoPopulated config? uuid4Fields).messages.names = r.messages.names :=
  List.foldlRecOn (motive := fun s : Registry => s.messages.names = r.messages.names) _ _ rfl
    fun s h settings _ =>
    (s.names_populateListed uuid4Fields settings).trans h

/-- Marking fields changes no method. -/
theorem method?_markAutoPopulated (id : String) :
    (r.markAutoPopulated config? uuid4Fields).method? id = r.method? id := by
  rw [markAutoPopulated_eq]
  rfl

/-- What becomes of a message by the settings of a configuration. -/
theorem message?_markAutoPopulated (id : String) :
    (r.markAutoPopulated config? uuid4Fields).message? id = (r.message? id).map fun m =>
      { m with fields := m.fields.map fun f =>
          { f with
            autoPopulated := f.autoPopulated
              || (ServiceConfig.settings config?).any (r.fills uuid4Fields id f) } } :=
  message?_foldl_populateListed r uuid4Fields _ id

/-- The settings may stand in any order. -/
theorem markAutoPopulated_perm {c c' : ServiceConfig}
    (h : c.methodSettings.Perm c'.methodSettings) :
    r.markAutoPopulated (some c) uuid4Fields = r.markAutoPopulated (some c') uuid4Fields := by
  have hmessages : (r.markAutoPopulated (some c) uuid4Fields).messages
      = (r.markAutoPopulated (some c') uuid4Fields).messages := by
    refine Table.ext_get? fun id => ?_
    have hany : ∀ f, (ServiceConfig.settings (some c)).any (r.fills uuid4Fields id f)
        = (ServiceConfig.settings (some c')).any (r.fills uuid4Fields id f) := fun f => h.any_eq
    have hlookup := r.message?_markAutoPopulated uuid4Fields (some c) id
    simp only [hany] at hlookup
    exact hlookup.trans (r.message?_markAutoPopulated uuid4Fields (some c') id).symm
  rw [markAutoPopulated_eq, hmessages, ← markAutoPopulated_eq]

/-! ### The registry afterwards -/

/-- That some settings ask for a field of a message to be filled in: the message is the request of
    their method, and they list the field, which is an optional text for a random identifier. -/
def AsksToFill (r : Registry) (settings : List MethodSettings) (uuid4Fields : NameSet) (id : String)
    (f : Field) : Prop :=
  ∃ s ∈ settings, (∃ m, r.method? ("." ++ s.selector) = some m ∧ m.inputType = id) ∧
    f.name ∈ s.autoPopulatedFields ∧ uuid4Fields.contains f.id = true ∧ f.kind = .string ∧
    FieldBehavior.required ∉ f.behavior

variable {r uuid4Fields} in
/-- A field is filled in if one of the settings asks for it. -/
theorem any_fills_iff {settings : List MethodSettings} {id : String} {f : Field} :
    settings.any (r.fills uuid4Fields id f) = true ↔ r.AsksToFill settings uuid4Fields id f := by
  simp [fills, AsksToFill, Field.qualifies, Field.isRequired, Option.any_eq_true, and_assoc]

/-- `s` is `r` with the fields marked that some settings ask for. -/
structure MarksFields (r s : Registry) (settings : List MethodSettings) (uuid4Fields : NameSet) :
    Prop where
  rest : { r with messages := s.messages } = s
  names : s.messages.names = r.messages.names
  /-- A field is marked if it was before or the settings ask for it, and stays otherwise, as does
      the message. -/
  message : ∀ id m, r.message? id = some m → ∃ m', s.message? id = some m' ∧
    { m with fields := m'.fields } = m' ∧
    List.Forall₂ (fun f f' => { f with autoPopulated := f'.autoPopulated } = f' ∧
      (f'.autoPopulated = true ↔ f.autoPopulated = true ∨ r.AsksToFill settings uuid4Fields id f))
        m.fields m'.fields

/-- Exactly those fields are marked that were before or that the settings of a configuration ask
    for, and the settings may stand in any order. -/
theorem marksFields_markAutoPopulated (r : Registry) (uuid4Fields : NameSet) :
    (∀ config?, r.MarksFields (r.markAutoPopulated config? uuid4Fields)
        (ServiceConfig.settings config?) uuid4Fields) ∧
      ∀ c c' : ServiceConfig, c.methodSettings.Perm c'.methodSettings →
        r.markAutoPopulated (some c) uuid4Fields = r.markAutoPopulated (some c') uuid4Fields := by
  refine ⟨fun config? => ?_, fun c c' h => r.markAutoPopulated_perm uuid4Fields h⟩
  refine {
    rest := (r.markAutoPopulated_eq uuid4Fields config?).symm
    names := r.names_markAutoPopulated uuid4Fields config?
    message := fun id m hm => ?_ }
  refine ⟨_, by rw [message?_markAutoPopulated, hm, Option.map_some], rfl, ?_⟩
  rw [List.forall₂_map_right_iff, List.forall₂_same]
  intro f _
  refine ⟨rfl, ?_⟩
  rw [Bool.or_eq_true, any_fills_iff]

end Registry

/-- Two methods with one request: it has two texts that may be left out, one that may not, and a
    number. -/
def lending : Registry :=
  let request : Message := {
    id := ".lib.Lend"
    fields := [
      { id := ".lib.Lend.lending", name := "lending", kind := .string },
      { id := ".lib.Lend.request", name := "request", kind := .string },
      { id := ".lib.Lend.book", name := "book", kind := .string, behavior := [.required] },
      { id := ".lib.Lend.days", name := "days", kind := .int32 }] }
  let lend : Method :=
    { id := ".lib.Books.Lend", inputType := ".lib.Lend", outputType := ".lib.Lend" }
  let renew : Method :=
    { id := ".lib.Books.Renew", inputType := ".lib.Lend", outputType := ".lib.Lend" }
  ((({} : Registry).addMessage request).addMethod lend).addMethod renew

/-- A configuration with settings of both methods, and of one that is not there. -/
def lendingConfig : ServiceConfig := {
  methodSettings := [
    { selector := "lib.Books.Lend", autoPopulatedFields := ["request", "book"] },
    { selector := "lib.Books.Renew", autoPopulatedFields := ["lending", "days"] },
    { selector := "lib.Books.Return", autoPopulatedFields := ["request"] }] }

/-- The same configuration with its settings the other way round. -/
def lendingConfigReversed : ServiceConfig :=
  { lendingConfig with methodSettings := lendingConfig.methodSettings.reverse }

/-- The ids of all fields of the request. -/
def lendingIds : NameSet :=
  NameSet.ofNames [".lib.Lend.lending", ".lib.Lend.request", ".lib.Lend.book", ".lib.Lend.days"]

/-- The request has the marks of both methods, whichever of them comes first. -/
theorem marksFields_lending :
    lendingConfig.methodSettings.Perm lendingConfigReversed.methodSettings ∧
      lending.MarksFields (lending.markAutoPopulated (some lendingConfig) lendingIds)
        lendingConfig.methodSettings lendingIds ∧
      lending.markAutoPopulated (some lendingConfig) lendingIds
        = lending.markAutoPopulated (some lendingConfigReversed) lendingIds ∧
      ((lending.markAutoPopulated (some lendingConfig) lendingIds).message? ".lib.Lend").map
        (·.fields.map (·.autoPopulated)) = some [true, true, false, false] := by
  have hperm : lendingConfig.methodSettings.Perm lendingConfigReversed.methodSettings :=
    lendingConfig.methodSettings.reverse_perm.symm
  obtain ⟨hmarks, horder⟩ := Registry.marksFields_markAutoPopulated lending lendingIds
  exact ⟨hperm, hmarks (some lendingConfig), horder _ _ hperm, by decide +kernel⟩

end ProtoApi
