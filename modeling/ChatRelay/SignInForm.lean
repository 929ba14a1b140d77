import Mathlib.Data.List.Basic
import Mathlib.Logic.Function.Basic
import ChatRelay.HostName
import ChatRelay.LabelledRun

namespace ChatRelay

/-!
# The sign-in form

Each text field has a watcher that mirrors its text into a field of the
fragment, and the click listener validates what the watchers have stored.  An
error is written into the text field it is about, so the watcher stores it as
well: what the next click validates need not be what the user has typed.
-/

open HostName (isValidHostname)
open JavaInteger (parseInt)
open LabelledRun

namespace SignInForm

/-- The three text fields. -/
inductive Field where
  | address : Field
  | username : Field
  | port : Field
  deriving Repr, DecidableEq

/-! ## Texts -/

def default_server_address : JavaString :=
  utf16 "10.0.2.2"

def default_port : JavaString :=
  utf16 "9001"

def default_username : JavaString :=
  utf16 "jsmith2"

def error_field_required : JavaString :=
  utf16 "This field is required"

def error_invalid_server : JavaString :=
  utf16 "This server address is invalid"

def error_invalid_username : JavaString :=
  utf16 "This username is invalid"

def error_invalid_port : JavaString :=
  utf16 "This port is invalid, pick a number between 1 and 65536"

/-- What a field shows at first. -/
def defaultText : Field → JavaString
  | .address => default_server_address
  | .username => default_username
  | .port => default_port

/-- What is wrong with a text that a field does not accept. -/
def invalidText : Field → JavaString
  | .address => error_invalid_server
  | .username => error_invalid_username
  | .port => error_invalid_port

/-- The texts with which errors are reported in a field. -/
def errorTexts (field : Field) : List JavaString :=
  [error_field_required, invalidText field]

theorem error_field_required_mem (field : Field) :
    error_field_required ∈ errorTexts field :=
  List.mem_cons_self

theorem mem_errorTexts_of_invalid
    {field : Field}
    {error : JavaString}
    (invalid : invalidText field = error) :
    error ∈ errorTexts field := by
  rw [← invalid]
  exact List.mem_cons_of_mem error_field_required List.mem_cons_self

/-! ## The fragment -/

/--
A text view.  Whether its text was set to report an error, and not edited since,
is noted for the statements below; the source does not keep it.
-/
structure TextView where
  text : JavaString
  isReport : Bool
  deriving Repr, DecidableEq

/-- A call of `OnInteractionListener::login`. -/
structure LoginCall where
  sender : JavaString
  host : JavaString
  port : Int
  deriving Repr, DecidableEq

/--
`LoginFragment`: its text views, and the strings `address`, `username` and
`port` that the watchers keep up to date.
-/
structure LoginFragment where
  fields : Field → TextView
  watched : Field → JavaString

/-- The fragment at the end of `onViewCreated`. -/
def onViewCreated : LoginFragment where
  fields := fun field => ⟨defaultText field, false⟩
  watched := defaultText

namespace LoginFragment

variable (form : LoginFragment)

/-- The text of a view changes, and its watcher runs. -/
def setText
    (field : Field)
    (view : TextView) : LoginFragment where
  fields := Function.update form.fields field view
  watched := Function.update form.watched field view.text

/-- The user edits a field. -/
def edit
    (field : Field)
    (text : JavaString) : LoginFragment :=
  form.setText field ⟨text, false⟩

/-- The form writes an error into a field. -/
def report
    (field : Field)
    (error : JavaString) : LoginFragment :=
  form.setText field ⟨error, true⟩

end LoginFragment

/-- A form, and whether an error was found in it. -/
abbrev Checked :=
  LoginFragment × Bool

/-- One turn of the loop over the fields. -/
def requireText
    (checked : Checked)
    (textView : Field) : Checked :=
  if (checked.1.fields textView).text.length ≤ 0 then
    (checked.1.report textView error_field_required, true)
  else
    checked

/-- The loop over the fields. -/
def checkRequired (form : LoginFragment) : Checked :=
  [.address, .username, .port].foldl requireText (form, false)

def checkHostname (checked : Checked) : Checked :=
  if !isValidHostname (checked.1.watched .address) then
    (checked.1.report .address error_invalid_server, true)
  else
    checked

def checkUsername (checked : Checked) : Checked :=
  if (checked.1.watched .username).length ≤ 2 then
    (checked.1.report .username error_invalid_username, true)
  else
    checked

/-- The click listener: the form afterwards, and the call it has made. -/
def onClick (form : LoginFragment) : LoginFragment × Option LoginCall :=
  let required := checkRequired form
  if required.2 then
    (required.1, none)
  else
    let checked := checkUsername (checkHostname required)
    match parseInt (checked.1.watched .port) with
    | none =>
        (checked.1.report .port error_invalid_port, none)
    | some port =>
        if port ≤ 0 ∨ port > 65535 then
          (checked.1.report .port error_invalid_port, none)
        else if checked.2 then
          (checked.1, none)
        else
          (checked.1,
            some
              ⟨checked.1.watched .username,
                checked.1.watched .address, port⟩)

/-- What the user does. -/
inductive Label where
  | edit (field : Field) (text : JavaString) : Label
  | click : Label
  deriving Repr, DecidableEq

/-- The steps of the form. -/
def step?
    (form : LoginFragment) : Label → Option LoginFragment
  | .edit field text =>
      some (form.edit field text)
  | .click =>
      some (onClick form).1

/-- What a field is supposed to hold after an action of the user. -/
def typedAfter
    (typed : Field → JavaString) : Label → Field → JavaString
  | .edit field text =>
      Function.update typed field text
  | .click =>
      typed

/-- What the user has last typed into the fields, or their defaults. -/
def lastTyped (past : List Label) : Field → JavaString :=
  past.foldl typedAfter defaultText

/-! ## When a click calls `login` -/

/-- A port number in the range of the check. -/
def ValidPort (text : JavaString) (port : Int) : Prop :=
  parseInt text = some port ∧ 1 ≤ port ∧ port ≤ 65535

section Checks

variable {form : LoginFragment}
variable {checked : Checked}
variable {field : Field}

/-- A turn of the loop leaves a field with a text as it is. -/
theorem requireText_of_text
    (text : (checked.1.fields field).text ≠ []) :
    requireText checked field = checked := by
  unfold requireText
  rw [if_neg]
  rw [Nat.le_zero, List.length_eq_zero_iff]
  exact text

/-- A turn of the loop finds no error only in a field with a text. -/
theorem requireText_passes
    (passed : (requireText checked field).2 = false) :
    requireText checked field = checked ∧
      (checked.1.fields field).text ≠ [] := by
  have text : (checked.1.fields field).text ≠ [] := by
    intro none
    unfold requireText at passed
    rw [none] at passed
    contradiction
  exact ⟨requireText_of_text text, text⟩

/-- Without an empty field the loop leaves the form as it is. -/
theorem checkRequired_of_texts
    (texts : ∀ field, (form.fields field).text ≠ []) :
    checkRequired form = (form, false) := by
  have turn :
      ∀ field, requireText (form, false) field = (form, false) :=
    fun field => requireText_of_text (texts field)
  unfold checkRequired
  rw [List.foldl_cons, turn, List.foldl_cons, turn, List.foldl_cons, turn]
  rfl

/-- The loop finds no error only if no field is empty. -/
theorem texts_of_checkRequired
    (passed : (checkRequired form).2 = false) :
    ∀ field, (form.fields field).text ≠ [] := by
  unfold checkRequired at passed
  rw [List.foldl_cons, List.foldl_cons, List.foldl_cons, List.foldl_nil]
    at passed
  obtain ⟨port, portText⟩ := requireText_passes passed
  rw [port] at passed
  obtain ⟨username, usernameText⟩ := requireText_passes passed
  rw [username] at passed portText
  obtain ⟨address, addressText⟩ := requireText_passes passed
  rw [address] at usernameText portText
  intro field
  cases field with
  | address => exact addressText
  | username => exact usernameText
  | port => exact portText

/-- The checks of a valid address and a valid username change nothing. -/
theorem checkUsername_of_valid
    (validHost : isValidHostname (form.watched .address) = true)
    (long : 2 < (form.watched .username).length) :
    checkUsername (checkHostname (form, false)) = (form, false) := by
  have hostname : checkHostname (form, false) = (form, false) := by
    unfold checkHostname
    rw [validHost]
    rfl
  rw [hostname]
  exact if_neg (Nat.not_le.mpr long)

/-- The two checks find no error only in a valid address and a valid username. -/
theorem valid_of_checkUsername
    (passed : (checkUsername (checkHostname (form, false))).2 = false) :
    isValidHostname (form.watched .address) = true ∧
      2 < (form.watched .username).length := by
  unfold checkUsername at passed
  split at passed
  · contradiction
  · rename_i long
    unfold checkHostname at passed long
    cases valid : isValidHostname (form.watched .address) with
    | false =>
        rw [valid] at passed
        contradiction
    | true =>
        rw [valid] at long
        exact ⟨rfl, by simpa using long⟩

/--
A click calls `login` exactly if the three texts are valid, with what the
watchers have stored.
-/
theorem onClick_eq_call
    (mirrored : ∀ field, (form.fields field).text = form.watched field)
    {call : LoginCall} :
    (onClick form).2 = some call ↔
      isValidHostname (form.watched .address) = true ∧
        2 < (form.watched .username).length ∧
        ValidPort (form.watched .port) call.port ∧
        call =
          ⟨form.watched .username, form.watched .address, call.port⟩ := by
  constructor
  · intro called
    unfold onClick at called
    dsimp only at called
    split at called
    · contradiction
    · rename_i passed
      rw [checkRequired_of_texts
        (texts_of_checkRequired (eq_false_of_ne_true passed))] at called
      split at called
      · contradiction
      · rename_i port parsed
        split at called
        · contradiction
        · rename_i inRange
          split at called
          · contradiction
          · rename_i passed
            obtain ⟨validHost, long⟩ :=
              valid_of_checkUsername (eq_false_of_ne_true passed)
            rw [checkUsername_of_valid validHost long] at called parsed
            obtain rfl := Option.some.inj called
            have range : 1 ≤ port ∧ port ≤ 65535 := by
              omega
            exact ⟨validHost, long, ⟨parsed, range⟩, rfl⟩
  · rintro ⟨validHost, long, ⟨parsed, positive, small⟩, shape⟩
    have texts : ∀ field, (form.fields field).text ≠ [] := by
      intro field
      rw [mirrored]
      cases field with
      | address =>
          exact HostName.ne_nil_of_valid validHost
      | username =>
          exact List.ne_nil_of_length_pos (by omega)
      | port =>
          intro none
          rw [none] at parsed
          contradiction
    have checks :=
      checkUsername_of_valid validHost long
    have inRange : ¬ (call.port ≤ 0 ∨ call.port > 65535) := by
      omega
    unfold onClick
    rw [checkRequired_of_texts texts]
    simp only [Bool.false_eq_true, if_false, checks, parsed, inRange]
    rw [← shape]

end Checks

/-! ## What a call has to carry -/

/--
A call, made by a click on the form, carries what the user has last typed.  It
is valid, and no text of the form's own is submitted with it.
-/
structure CarriesTyped
    (past : List Label)
    (form : LoginFragment)
    (call : LoginCall) : Prop where
  sender : call.sender = lastTyped past .username
  host : call.host = lastTyped past .address
  port : ValidPort (lastTyped past .port) call.port
  longSender : 2 < call.sender.length
  validHost : isValidHostname call.host = true
  noReport : ∀ field, (form.fields field).isReport = false

/-- The calls that a step makes carry what the user has last typed. -/
def CallsCarryTyped
    (past : List Label)
    (form : LoginFragment)
    (label : Label) : Prop :=
  label = .click →
    ∀ call, (onClick form).2 = some call → CarriesTyped past form call

/--
The user clicks while the username field still shows an error that the form has
reported there, and the address and the port are valid.
-/
def SubmitsReport
    (form : LoginFragment)
    (label : Label) : Prop :=
  label = .click ∧
    (form.fields .username).isReport = true ∧
    isValidHostname (form.watched .address) = true ∧
    ∃ port, ValidPort (form.watched .port) port

/-! ## What the fields show -/

/--
The watchers mirror the fields.  A field shows what the user has last typed
into it, or an error that the form has reported in it since.
-/
structure Tracks
    (past : List Label)
    (form : LoginFragment) : Prop where
  mirrored : ∀ field, (form.fields field).text = form.watched field
  typed :
    ∀ field,
      (form.fields field).isReport = false →
      form.watched field = lastTyped past field
  reported :
    ∀ field,
      (form.fields field).isReport = true →
      form.watched field ∈ errorTexts field

theorem lastTyped_concat
    (past : List Label)
    (label : Label) :
    lastTyped (past ++ [label]) = typedAfter (lastTyped past) label := by
  rw [lastTyped, List.foldl_append]
  rfl

theorem lastTyped_click (past : List Label) :
    lastTyped (past ++ [.click]) = lastTyped past :=
  lastTyped_concat past .click

namespace Tracks

variable {past : List Label}
variable {form : LoginFragment}

theorem onViewCreated : Tracks [] onViewCreated :=
  ⟨fun _ => rfl, fun _ _ => rfl, fun _ isReport => by contradiction⟩

/-- A new text in one field, while the others are not touched. -/
theorem setText
    (tracks : Tracks past form)
    {now : List Label}
    {field : Field}
    {view : TextView}
    (others :
      ∀ other, other ≠ field → lastTyped now other = lastTyped past other)
    (typed : view.isReport = false → view.text = lastTyped now field)
    (reported : view.isReport = true → view.text ∈ errorTexts field) :
    Tracks now (form.setText field view) := by
  unfold LoginFragment.setText
  constructor
  · intro other
    by_cases same : other = field
    · subst other
      simp
    · simp [same, tracks.mirrored]
  · intro other
    by_cases same : other = field
    · subst other
      simpa using typed
    · simpa [same, others other same] using tracks.typed other
  · intro other
    by_cases same : other = field
    · subst other
      simpa using reported
    · simpa [same] using tracks.reported other

theorem edit
    (tracks : Tracks past form)
    (field : Field)
    (text : JavaString) :
    Tracks (past ++ [.edit field text]) (form.edit field text) := by
  apply tracks.setText
  · intro other different
    rw [lastTyped_concat]
    exact Function.update_of_ne different text (lastTyped past)
  · intro _
    rw [lastTyped_concat]
    exact (Function.update_self field text (lastTyped past)).symm
  · intro isReport
    contradiction

/-- An error text of a field can be reported in it. -/
theorem report
    (tracks : Tracks past form)
    {field : Field}
    {error : JavaString}
    (isError : error ∈ errorTexts field) :
    Tracks past (form.report field error) := by
  apply tracks.setText
  · intro _ _
    rfl
  · intro isReport
    contradiction
  · intro _
    exact isError

theorem requireText
    {checked : Checked}
    (tracks : Tracks past checked.1)
    (textView : Field) :
    Tracks past (requireText checked textView).1 := by
  unfold SignInForm.requireText
  split
  · exact tracks.report (error_field_required_mem textView)
  · exact tracks

theorem checkRequired (tracks : Tracks past form) :
    Tracks past (checkRequired form).1 := by
  have start : Tracks past ((form, false) : Checked).1 := tracks
  have address := start.requireText .address
  have username := address.requireText .username
  exact username.requireText .port

theorem checkHostname
    {checked : Checked}
    (tracks : Tracks past checked.1) :
    Tracks past (checkHostname checked).1 := by
  unfold SignInForm.checkHostname
  split
  · exact tracks.report (mem_errorTexts_of_invalid rfl)
  · exact tracks

theorem checkUsername
    {checked : Checked}
    (tracks : Tracks past checked.1) :
    Tracks past (checkUsername checked).1 := by
  unfold SignInForm.checkUsername
  split
  · exact tracks.report (mem_errorTexts_of_invalid rfl)
  · exact tracks

/-- A click writes nothing but error texts. -/
theorem click (tracks : Tracks past form) :
    Tracks (past ++ [.click]) (onClick form).1 := by
  have required := tracks.checkRequired
  have validated := required.checkHostname.checkUsername
  have clicked : Tracks past (onClick form).1 := by
    unfold onClick
    generalize SignInForm.checkRequired form = afterLoop
      at required validated ⊢
    dsimp only
    generalize SignInForm.checkUsername
      (SignInForm.checkHostname afterLoop) = checked at validated ⊢
    split
    · exact required
    · split
      · exact validated.report (mem_errorTexts_of_invalid rfl)
      · split
        · exact validated.report (mem_errorTexts_of_invalid rfl)
        · split <;> exact validated
  refine ⟨clicked.mirrored, ?_, clicked.reported⟩
  rw [lastTyped_click]
  exact clicked.typed

/-- Every reachable form tracks what the user has done. -/
theorem of_run
    (reached : run? step? SignInForm.onViewCreated past = some form) :
    Tracks past form := by
  refine @invariant _ _ step? SignInForm.onViewCreated Tracks
    Tracks.onViewCreated ?_ past form reached
  intro past form label next _ tracks taken
  cases label with
  | edit field text =>
      obtain rfl := Option.some.inj taken
      exact tracks.edit field text
  | click =>
      obtain rfl := Option.some.inj taken
      exact tracks.click

end Tracks

/-! ## Which clicks submit an error text -/

/-- No error text is a valid address. -/
theorem errorTexts_address
    {error : JavaString}
    (isError : error ∈ errorTexts .address) :
    isValidHostname error = false := by
  have space : ∀ error ∈ errorTexts .address, 0x20 ∈ error := by
    decide +kernel
  have noSpace : 0x20 ∉ HostName.hostUnits := by
    decide +kernel
  by_contra valid
  exact noSpace
    (HostName.mem_hostUnits (eq_true_of_ne_false valid)
      (space error isError))

/-- No error text is an integer. -/
theorem errorTexts_port
    {error : JavaString}
    (isError : error ∈ errorTexts .port) :
    parseInt error = none := by
  have none : ∀ error ∈ errorTexts .port, parseInt error = none := by
    decide +kernel
  exact none error isError

/-- Every error text is long enough for a username. -/
theorem errorTexts_username
    {error : JavaString}
    (isError : error ∈ errorTexts .username) :
    2 < error.length := by
  have long : ∀ error ∈ errorTexts .username, 2 < error.length := by
    decide +kernel
  exact long error isError

/-- A click submits an error text, or its call carries what the user has typed. -/
theorem callsCarryTyped_iff
    {past : List Label}
    {form : LoginFragment}
    (tracks : Tracks past form)
    (label : Label) :
    CallsCarryTyped past form label ↔ ¬ SubmitsReport form label := by
  constructor
  · rintro carries ⟨rfl, isReport, validHost, port, validPort⟩
    have long : 2 < (form.watched .username).length :=
      errorTexts_username (tracks.reported .username isReport)
    have called :
        (onClick form).2 =
          some ⟨form.watched .username, form.watched .address, port⟩ :=
      (onClick_eq_call tracks.mirrored).mpr
        ⟨validHost, long, validPort, rfl⟩
    have noReport := (carries rfl _ called).noReport .username
    rw [isReport] at noReport
    contradiction
  · rintro noSubmission rfl call called
    obtain ⟨validHost, long, validPort, shape⟩ :=
      (onClick_eq_call tracks.mirrored).mp called
    have noReport : ∀ field, (form.fields field).isReport = false := by
      intro field
      by_contra isReport
      have reported := eq_true_of_ne_false isReport
      have isError := tracks.reported field reported
      cases field with
      | address =>
          rw [errorTexts_address isError] at validHost
          contradiction
      | username =>
          exact noSubmission
            ⟨rfl, reported, validHost, call.port, validPort⟩
      | port =>
          rw [ValidPort, errorTexts_port isError] at validPort
          exact nomatch validPort.1
    have typed := fun field => tracks.typed field (noReport field)
    rw [shape]
    exact ⟨typed .username, typed .address, typed .port ▸ validPort, long,
      validHost, noReport⟩

/--
In every sequence of edits and clicks, all calls carry what the user has last
typed exactly if the user never clicks while an error is shown as the username,
with a valid address and a valid port.
-/
theorem calls_carry_typed_iff (labels : List Label) :
    EveryStep step? onViewCreated CallsCarryTyped labels ↔
      EveryStep step? onViewCreated
        (fun _ form label => ¬ SubmitsReport form label) labels := by
  apply everyStep_congr
  intro past form label reached
  exact callsCarryTyped_iff (Tracks.of_run reached) label

/-- A name of two characters is rejected, and the next click signs in. -/
theorem error_text_submitted :
    let past : List Label := [.edit .username (utf16 "ab"), .click]
    (run? step? onViewCreated past).map
        (fun form => (onClick form).2) =
          some (some
            ⟨error_invalid_username, default_server_address, 9001⟩) ∧
      ¬ EveryStep step? onViewCreated CallsCarryTyped
        (past ++ [.click]) := by
  have submitted :
      (run? step? onViewCreated
          [.edit .username (utf16 "ab"), .click]).map
        (fun form => (onClick form).2) =
          some (some
            ⟨error_invalid_username, default_server_address, 9001⟩) := by
    decide +kernel
  refine ⟨submitted, ?_⟩
  intro every
  obtain ⟨form, reached, called⟩ := Option.map_eq_some_iff.mp submitted
  have sender := (every.last reached rfl _ called).sender
  have different :
      error_invalid_username ≠
        lastTyped [.edit .username (utf16 "ab"), .click] .username := by
    decide +kernel
  exact different sender

end SignInForm

end ChatRelay
