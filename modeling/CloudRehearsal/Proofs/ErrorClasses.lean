import CloudRehearsal.Proofs.Methods

/-!
How the errors of a service are classed. `Method.Reports` says of every method and every error what
the caller learns: a class of its own for a name that is taken, a resource that is missing and a sender
who is not verified, and for all else the operation, the code and the message.

An exception decides nothing by itself: the same one is one class for one operation and none for
another. Nor does a code: an error that arrives as no exception is of no class, whatever its code.
-/
namespace CloudRehearsal

open Text

/-! ## Exceptions -/

/-- An error that arrives as one of the exceptions `names` is told by the exception: it has the name for
its code, and the exception's message and text. -/
structure Fault.AgreesOn (names : List String) (fault : Fault) : Prop where
  code : ∀ x, fault.exception = some x → x.name ∈ names → fault.code = some x.name
  message : ∀ x, fault.exception = some x → x.name ∈ names → fault.message = x.message
  display : ∀ x, fault.exception = some x → x.name ∈ names → fault.display = x.display

/-- An error that arrives as an exception, under its name and with a text of name and message. -/
def Fault.modeled (name : String) (message : Option String) : Fault :=
  let text := match message with
    | some said => s!"{name}: {said}"
    | none => name
  ⟨some ⟨name, message, text⟩, some name, message, text⟩

/-- An error that arrives as none. -/
def Fault.unmodeled (code : String) (message : Option String) : Fault :=
  ⟨none, some code, message, s!"unhandled error ({code})"⟩

@[simp]
theorem Fault.is_modeled (name : String) (message : Option String) : (modeled name message).Is name :=
  ⟨_, rfl, rfl⟩

@[simp]
theorem Fault.says_modeled (name words : String) : (modeled name (some words)).Says name words :=
  ⟨_, rfl, rfl, rfl⟩

theorem Fault.modeled_agreesOn (names : List String) (name : String) (message : Option String) :
    (modeled name message).AgreesOn names := by
  constructor <;>
    · rintro _ ⟨⟩ -
      rfl

namespace ClientError

theorem wordsOf_of_message {x : ServiceException} {words : String} (h : x.message = some words)
    (hw : words ≠ "") : wordsOf x = words := by
  rw [wordsOf, h]
  exact if_neg hw

variable {names : List String} {fault : Fault} {words : String}

theorem ofException_of_says {name : String} (hn : name ∈ names) (h : fault.Says name words)
    (hw : words ≠ "") (make : String → ClientError) (operation : String) :
    ofException names make operation (.service fault) = make words := by
  obtain ⟨x, hx, rfl, hm⟩ := h
  rw [ofException, SendError.exceptionIn?_service_eq_some_iff.2 ⟨hx, hn⟩]
  exact congrArg make (wordsOf_of_message hm hw)

/-- A sending that fails is about the sender exactly when the message is rejected in words that say so,
and these words are passed on as they are. -/
theorem ofSendEmail_eq_notVerified_iff {source address : String} :
    ofSendEmail source (.service fault) = .notVerified address words ↔
      fault.Says "MessageRejected" words ∧ "not verified".toList <:+: words.toList ∧
        address = source := by
  unfold ofSendEmail
  split
  next x hx =>
    obtain ⟨hx, hn⟩ := SendError.exceptionIn?_service_eq_some_iff.1 hx
    -- words that speak of the sender are not empty, so no others stand in for them
    have hpassed {said : String} (hm : x.message = some said)
        (hu : "not verified".toList <:+: said.toList) : wordsOf x = said := by
      refine wordsOf_of_message hm ?_
      rintro rfl
      exact nomatch List.infix_nil.1 hu
    rw [Fault.says_iff hx, and_iff_right (List.mem_singleton.1 hn)]
    split
    next hv =>
      obtain ⟨said, hm, hu⟩ := (Option.any_eq_true _ _).1 hv
      have hu : "not verified".toList <:+: said.toList := contains_iff.1 hu
      rw [hpassed hm hu, hm]
      constructor
      · intro h
        cases h
        exact ⟨rfl, hu, rfl⟩
      · intro ⟨h, _, ha⟩
        cases h
        rw [ha]
    next hv =>
      refine iff_of_false nofun fun ⟨hm, hu, _⟩ => hv ?_
      exact (Option.any_eq_true _ _).2 ⟨words, hm, contains_iff.2 hu⟩
  next hx =>
    refine iff_of_false nofun fun ⟨hs, _⟩ => ?_
    exact SendError.exceptionIn?_service_eq_none_iff.1 hx _ (List.mem_singleton.2 rfl) hs.is

end ClientError

namespace Method

/-! ## Classes -/

/-- The method creates something under a name, and the error says that the name is taken. -/
def NameTaken (m : Method) (fault : Fault) : Prop :=
  match m with
  | createTable .. => fault.Is "ResourceInUseException"
  | createBucket .. => fault.Is "BucketAlreadyExists" ∨ fault.Is "BucketAlreadyOwnedByYou"
  | createUser .. => fault.Is "UsernameExistsException"
  | _ => False

/-- The error says that what the method asks for is missing. -/
def ResourceMissing (m : Method) (fault : Fault) : Prop :=
  match m with
  | describeTable .. => fault.Is "ResourceNotFoundException"
  | getBytes .. | getText .. => fault.Is "NoSuchKey"
  | _ => False

/-- The message that was sent is rejected in words that say that its sender is not verified. -/
def SenderUnverified (m : Method) (fault : Fault) : Prop :=
  match m with
  | sendMail _ => ∃ said, fault.Says "MessageRejected" said ∧ "not verified".toList <:+: said.toList
  | _ => False

/-- What the caller has called the thing that a method is about. -/
def subject : Method → String
  | createTable table _ | describeTable table => table
  | createBucket _ bucket => bucket
  | getBytes bucket key | getText bucket key => s!"{bucket}/{key}"
  | sendMail m => m.source
  | createUser _ username _ => username
  | _ => ""

/-- The exceptions that a method tells apart from all other errors. -/
def exceptions : Method → List String
  | createTable .. => ["ResourceInUseException"]
  | createBucket .. => ["BucketAlreadyExists", "BucketAlreadyOwnedByYou"]
  | createUser .. => ["UsernameExistsException"]
  | describeTable .. => ["ResourceNotFoundException"]
  | getBytes .. | getText .. => ["NoSuchKey"]
  | sendMail _ => ["MessageRejected"]
  | _ => []

/-- The error is one that the method tells apart. -/
def Knows (m : Method) (fault : Fault) : Prop := ∃ name ∈ m.exceptions, fault.Is name

/-- The words of an error are the service's own. Where it has sent none they are the text of the error
by itself, and words that are empty count as none if the method knows the exception. -/
structure Says (m : Method) (fault : Fault) (words : String) : Prop where
  said : ∀ said, fault.message = some said → said ≠ "" → words = said
  unsaid : fault.message = none → words = fault.display
  empty_known : fault.message = some "" → m.Knows fault → words = fault.display
  empty_unknown : fault.message = some "" → ¬ m.Knows fault → words = ""

/-- The error says all there is to say about a fault, and no more. Code and words may be taken from the
exception and not from the fault itself, so the two must agree on them. -/
structure Reports (m : Method) (fault : Fault) (e : ClientError) : Prop where
  alreadyExists :
    (∃ resource id message, e = .alreadyExists resource id message) ↔ m.NameTaken fault
  notFound : (∃ resource id message, e = .notFound resource id message) ↔ m.ResourceMissing fault
  notVerified : (∃ address message, e = .notVerified address message) ↔ m.SenderUnverified fault
  taken_id : ∀ resource id message, e = .alreadyExists resource id message → id = m.subject
  missing_id : ∀ resource id message, e = .notFound resource id message → id = m.subject
  address : ∀ address message, e = .notVerified address message → address = m.subject
  service : ¬ m.NameTaken fault → ¬ m.ResourceMissing fault → ¬ m.SenderUnverified fault →
    ∃ code message, e = .service m.request.operation.name code message ∧
      (fault.AgreesOn m.exceptions → code = fault.code.getD "Unknown")
  words : fault.AgreesOn m.exceptions → m.Says fault e.message

variable {m : Method} {fault : Fault} {words : String}

theorem NameTaken.known (h : m.NameTaken fault) : m.Knows fault := by
  cases m <;> simp_all [NameTaken, Knows, exceptions]

theorem ResourceMissing.known (h : m.ResourceMissing fault) : m.Knows fault := by
  cases m <;> simp_all [ResourceMissing, Knows, exceptions]

theorem SenderUnverified.known (h : m.SenderUnverified fault) : m.Knows fault := by
  cases m with
  | sendMail mail =>
    obtain ⟨said, hs, -⟩ := h
    exact ⟨_, List.mem_singleton.2 rfl, hs.is⟩
  | _ => exact h.elim

/-- A method that creates something does not ask for something that may be missing. -/
theorem NameTaken.not_missing (h : m.NameTaken fault) : ¬ m.ResourceMissing fault := by
  cases m <;> simp_all [NameTaken, ResourceMissing]

theorem SenderUnverified.not_taken (h : m.SenderUnverified fault) : ¬ m.NameTaken fault := by
  cases m <;> simp_all [SenderUnverified, NameTaken]

theorem SenderUnverified.not_missing (h : m.SenderUnverified fault) : ¬ m.ResourceMissing fault := by
  cases m <;> simp_all [SenderUnverified, ResourceMissing]

/-! ## Words -/

theorem Says.of_exception {x : ServiceException} (hx : fault.exception = some x)
    (hn : x.name ∈ m.exceptions) (ha : fault.AgreesOn m.exceptions) :
    m.Says fault (ClientError.wordsOf x) where
  said said hs hne := ClientError.wordsOf_of_message ((ha.message x hx hn).symm.trans hs) hne
  unsaid hs := by
    rw [ha.message x hx hn] at hs
    rw [ClientError.wordsOf, hs, ha.display x hx hn]
  empty_known hs _ := by
    rw [ha.message x hx hn] at hs
    rw [ClientError.wordsOf, hs, ha.display x hx hn]
    exact if_pos rfl
  empty_unknown _ hk := absurd ⟨x.name, hn, x, hx, rfl⟩ hk

theorem Says.of_unknown (h : ¬ m.Knows fault) : m.Says fault (fault.message.getD fault.display) where
  said said hs _ := by rw [hs, Option.getD_some]
  unsaid hs := by rw [hs, Option.getD_none]
  empty_known _ hk := absurd hk h
  empty_unknown hs _ := by rw [hs, Option.getD_some]

/-! ## Errors by class -/

theorem Reports.of_taken (resource : String) (h : m.NameTaken fault)
    (hs : fault.AgreesOn m.exceptions → m.Says fault words) :
    m.Reports fault (.alreadyExists resource m.subject words) where
  alreadyExists := by simpa using h
  notFound := by simpa using h.not_missing
  notVerified := by simpa using fun hu : m.SenderUnverified _ => hu.not_taken h
  taken_id := by simp
  missing_id := by simp
  address := by simp
  service hn := absurd h hn
  words := hs

theorem Reports.of_missing (resource : String) (h : m.ResourceMissing fault)
    (hs : fault.AgreesOn m.exceptions → m.Says fault words) :
    m.Reports fault (.notFound resource m.subject words) where
  alreadyExists := by simpa using fun ht : m.NameTaken _ => ht.not_missing h
  notFound := by simpa using h
  notVerified := by simpa using fun hu : m.SenderUnverified _ => hu.not_missing h
  taken_id := by simp
  missing_id := by simp
  address := by simp
  service _ hn := absurd h hn
  words := hs

theorem Reports.of_unverified (h : m.SenderUnverified fault)
    (hs : fault.AgreesOn m.exceptions → m.Says fault words) :
    m.Reports fault (.notVerified m.subject words) where
  alreadyExists := by simpa using h.not_taken
  notFound := by simpa using h.not_missing
  notVerified := by simpa using h
  taken_id := by simp
  missing_id := by simp
  address := by simp
  service _ _ hn := absurd h hn
  words := hs

theorem Reports.of_service {code : String} (ht : ¬ m.NameTaken fault) (hm : ¬ m.ResourceMissing fault)
    (hu : ¬ m.SenderUnverified fault)
    (hc : fault.AgreesOn m.exceptions → code = fault.code.getD "Unknown")
    (hs : fault.AgreesOn m.exceptions → m.Says fault words) :
    m.Reports fault (.service m.request.operation.name code words) where
  alreadyExists := by simpa using ht
  notFound := by simpa using hm
  notVerified := by simpa using hu
  taken_id := by simp
  missing_id := by simp
  address := by simp
  service _ _ _ := ⟨code, words, rfl, hc⟩
  words := hs

theorem Reports.of_unknown (h : ¬ m.Knows fault) :
    m.Reports fault (ClientError.ofSend m.request.operation.name (.service fault)) :=
  .of_service (fun ht => h ht.known) (fun hm => h hm.known) (fun hu => h hu.known) (fun _ => rfl)
    fun _ => .of_unknown h

/-! ## What a failure is explained as -/

theorem not_knows_iff :
    ¬ m.Knows fault ↔ (SendError.service fault).exceptionIn? m.exceptions = none := by
  rw [SendError.exceptionIn?_service_eq_none_iff]
  simp [Knows]

/-- Methods to which their exceptions all mean the same. -/
theorem reports_ofException {make : String → ClientError}
    (hk : m.Knows fault → ∀ words, (fault.AgreesOn m.exceptions → m.Says fault words) →
      m.Reports fault (make words)) :
    m.Reports fault
      (ClientError.ofException m.exceptions make m.request.operation.name (.service fault)) := by
  unfold ClientError.ofException
  split
  next x hx =>
    obtain ⟨hx, hn⟩ := SendError.exceptionIn?_service_eq_some_iff.1 hx
    exact hk ⟨x.name, hn, x, hx, rfl⟩ _ (.of_exception hx hn)
  next hx => exact .of_unknown (not_knows_iff.2 hx)

theorem not_senderUnverified {mail : EmailMessage} {x : ServiceException}
    (hx : fault.exception = some x)
    (h : ¬ x.message.any (contains · ClientError.unverifiedWords) = true) :
    ¬ (sendMail mail).SenderUnverified fault := by
  intro ⟨said, hs, hu⟩
  exact h ((Option.any_eq_true _ _).2 ⟨said, ((Fault.says_iff hx).1 hs).2, contains_iff.2 hu⟩)

/-- Mail that is rejected is looked at once more: the words say whether the sender is not verified. -/
theorem reports_ofSendEmail (mail : EmailMessage) :
    (sendMail mail).Reports fault (ClientError.ofSendEmail mail.source (.service fault)) := by
  unfold ClientError.ofSendEmail
  split
  next x hx =>
    obtain ⟨hx, hn⟩ := SendError.exceptionIn?_service_eq_some_iff.1 hx
    have hname := List.mem_singleton.1 hn
    have hs := Says.of_exception (m := sendMail mail) hx hn
    split
    next hv =>
      obtain ⟨said, hm, hu⟩ := (Option.any_eq_true _ _).1 hv
      exact .of_unverified ⟨said, (Fault.says_iff hx).2 ⟨hname, hm⟩, contains_iff.1 hu⟩ hs
    next hv =>
      refine Reports.of_service (m := sendMail mail) id id (not_senderUnverified hx hv) (fun ha => ?_) hs
      rw [ha.code x hx hn, hname, Option.getD_some]
  next hx => exact .of_unknown (not_knows_iff.2 hx)

/-- Whatever the service reports, the method's explanation says it. -/
theorem explain_reports (m : Method) (fault : Fault) :
    m.Reports fault (m.explain (.service fault)) := by
  cases m with
  | createTable table key =>
    refine reports_ofException fun h words => .of_taken "Table" ?_
    simpa [NameTaken, Knows, exceptions] using h
  | createBucket b bucket =>
    refine reports_ofException fun h words => .of_taken "Bucket" ?_
    simpa [NameTaken, Knows, exceptions] using h
  | createUser pool username password =>
    refine reports_ofException fun h words => .of_taken "User" ?_
    simpa [NameTaken, Knows, exceptions] using h
  | describeTable table =>
    refine reports_ofException fun h words => .of_missing "Table" ?_
    simpa [ResourceMissing, Knows, exceptions] using h
  | getBytes bucket key | getText bucket key =>
    refine reports_ofException fun h words => .of_missing "Object" ?_
    simpa [ResourceMissing, Knows, exceptions] using h
  | sendMail mail => exact reports_ofSendEmail mail
  | _ => exact .of_unknown (by simp [Knows, exceptions])

/-! ## Calls that are answered by an error -/

theorem fail_absent {bucket : String} (h : fault.Is "NotFound") :
    (containsBucket bucket).fail (.service fault) = .ok false := by
  obtain ⟨x, hx, hn⟩ := h
  rw [fail, SendError.exceptionIn?_service_eq_some_iff.2 ⟨hx, List.mem_singleton.2 hn⟩]

theorem fail_service_eq_error (h : ∀ bucket, m = containsBucket bucket → ¬ fault.Is "NotFound") :
    m.fail (.service fault) = .error (m.explain (.service fault)) :=
  fail_eq_error fun bucket hm =>
    SendError.exceptionIn?_service_eq_none_iff.2 fun _ hn => List.mem_singleton.1 hn ▸ h bucket hm

/-- A server that meets every request with the same error. -/
def refusing (fault : Fault) : Server Unit := ⟨fun _ s => (.error fault, s)⟩

end Method

end CloudRehearsal
