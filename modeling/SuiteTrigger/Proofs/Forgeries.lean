import SuiteTrigger.Platform.Memory
import SuiteTrigger.Proofs.Endings
import SuiteTrigger.Webhook.Server

/-!
# Forged webhooks

With a secret, a webhook is forged unless its headers carry one of the two signatures of its body.
A forged webhook is refused before its body is read: it counts as a request and at most as one that
is not valid, and leaves the platform as it was (`serveOne_forged`). So the other requests are
answered as if it had not been sent.
-/

namespace SuiteTrigger.Webhook

open Http (Headers)
open Work

/-- The headers carry no signature of a body under a secret, neither of the two. -/
def Unsigned (secret : String) (headers : Headers) (body : List UInt8) : Prop :=
  ∀ algorithm, signature? headers ≠ some (signatureOf algorithm secret body)

theorem checkSigned_mismatch {secret signature : String} {body : List UInt8}
    (other : ∀ algorithm, signature ≠ signatureOf algorithm secret body) :
    ∃ fault, checkSigned secret signature body = .error fault := by
  unfold checkSigned
  split
  · exact ⟨_, rfl⟩
  · split
    · exact ⟨_, rfl⟩
    · exact ⟨_, if_neg (other _)⟩

theorem checkSignature_unsigned {secret : String} {headers : Headers} {body : List UInt8}
    (unsigned : Unsigned secret headers body) :
    ∃ fault, checkSignature (some secret) headers body = .error fault := by
  unfold checkSignature
  cases signature : signature? headers with
  | none => exact ⟨_, rfl⟩
  | some text =>
    refine checkSigned_mismatch fun algorithm same => unsigned algorithm ?_
    rw [signature, same]

namespace Incoming

/-- A request to the webhook whose headers carry no signature of its body under a secret. -/
structure Forged (secret : String) (i : Incoming) : Prop where
  routed : i.path?.bind Route.ofPath? = some .webhook
  method : i.method = Route.webhook.method
  unsigned : Unsigned secret i.headers i.body.toBytes

end Incoming

/-- What a request that is no delivery is answered. -/
def refusal : Fault → Response
  | .invalid _ => ⟨400, some "invalid webhook"⟩
  | .failed => ⟨500, none⟩

/-- What a request that is no delivery counts, its path aside. -/
def refusalMoves : Fault → List Counter
  | .invalid _ => [.error .webhookValidation]
  | .failed => []

variable {σ : Type} (p : Platform σ) {settings : Settings} (connect : Json → Work σ Unit)
  {i : Incoming} {secret : String}

/-- A request that is no delivery is refused, and the platform stays as it is. -/
theorem receive_fault {fault : Fault} (refused : i.delivery settings.webhookSecret = .error fault)
    (s : σ) :
    (receive p settings connect i).Ends s ⟨.ok (refusal fault), s, refusalMoves fault⟩ := by
  rw [receive, refused]
  refine (ends_log _ _ _).andThen ?_
  cases fault with
  | failed => exact ends_pure s _
  | invalid reason =>
    refine (ends_count _ _).bind ?_
    exact (ends_log _ _ _).andThen (ends_pure _ _)

theorem delivery_forged (forged : i.Forged secret) :
    ∃ fault, i.delivery (some secret) = .error fault := by
  obtain ⟨fault, refused⟩ := checkSignature_unsigned forged.unsigned
  exact ⟨.ofSignature fault, by rw [Incoming.delivery, refused]⟩

variable {p connect} in
theorem respond_webhook {path : String} (named : i.path? = some path)
    (routed : Route.ofPath? path = some .webhook) (method : i.method = Route.webhook.method)
    {s : σ} {e : Ending σ Response} (received : (receive p settings connect i).Ends s e) :
    (respond p settings connect i).Ends s
      ⟨e.outcome, e.platform, .request path :: e.moves⟩ := by
  have other : path ≠ Route.metrics.path := by
    rintro rfl
    exact absurd routed (by decide)
  rw [respond, named]
  simp only [routed, other, method, ne_eq, not_true_eq_false, not_false_eq_true, if_true, if_false]
  exact (ends_count s (.request path)).bind received

variable {p connect} in
theorem serveOne_ends {s : σ} {e : Ending σ Response}
    (ends : (respond p settings connect i).Ends s e) :
    (serveOne p settings connect s i).response = e.outcome.toOption.getD ⟨500, none⟩ ∧
      (serveOne p settings connect s i).platform = e.platform ∧
      (serveOne p settings connect s i).journal.moves = e.moves := by
  obtain ⟨outcome, platform, moves⟩ := ends.on_eq
  exact ⟨congrArg (fun o => o.toOption.getD ⟨500, none⟩) outcome, platform, moves⟩

/-- A forged webhook is refused, counts nothing but itself, and leaves the platform as it is. -/
theorem serveOne_forged (set : settings.webhookSecret = some secret) (forged : i.Forged secret)
    (s : σ) :
    ∃ path fault, (serveOne p settings connect s i).response = refusal fault ∧
      (serveOne p settings connect s i).platform = s ∧
      (serveOne p settings connect s i).journal.moves = .request path :: refusalMoves fault := by
  obtain ⟨path, named, routed⟩ := Option.bind_eq_some_iff.1 forged.routed
  obtain ⟨fault, refused⟩ := delivery_forged forged
  rw [← set] at refused
  have received := receive_fault p connect refused s
  exact ⟨path, fault, serveOne_ends (respond_webhook named routed forged.method received)⟩

def left (platform : σ) (answers : List (Served σ)) : σ :=
  (answers.getLast?.map (·.platform)).getD platform

theorem left_cons (platform : σ) (served : Served σ) (answers : List (Served σ)) :
    left platform (served :: answers) = left served.platform answers := by
  rw [left, left, List.getLast?_cons]
  cases answers.getLast? <;> rfl

/-- The answers to later requests start from the platform that the earlier ones leave. -/
theorem serve_append (platform : σ) (before after : List Incoming) :
    serve p settings connect platform (before ++ after) =
      serve p settings connect platform before ++
        serve p settings connect (left platform (serve p settings connect platform before))
          after := by
  induction before generalizing platform with
  | nil => rfl
  | cons i before ih => rw [List.cons_append, serve, serve, List.cons_append, ih, left_cons]

/-- Wherever a forged webhook stands in a sequence of requests: it is answered with 400 or 500,
leaves the platform as it found it, and counts as a request and at most as one that is not valid.
All requests before and after it are answered, count and leave the platform as without it. -/
theorem forged_webhook_without_effect (p : Platform σ) (settings : Settings)
    (connect : Json → Work σ Unit) (secret : String) (set : settings.webhookSecret = some secret)
    (platform : σ) (before after : List Incoming) (i : Incoming) (forged : i.Forged secret) :
    ∃ refused : Served σ,
      serve p settings connect platform (before ++ i :: after) =
        serve p settings connect platform before ++
          refused :: serve p settings connect refused.platform after ∧
      serve p settings connect platform (before ++ after) =
        serve p settings connect platform before ++
          serve p settings connect refused.platform after ∧
      refused.platform = left platform (serve p settings connect platform before) ∧
      (refused.response.status = 400 ∨ refused.response.status = 500) ∧
      ∀ c ∈ refused.journal.moves, c = .error .webhookValidation ∨ ∃ path, c = .request path := by
  obtain ⟨path, fault, response, kept, moves⟩ := serveOne_forged p connect set forged
    (left platform (serve p settings connect platform before))
  refine ⟨_, by rw [serve_append, serve], by rw [serve_append, kept], kept, ?_, ?_⟩
  · rw [response]
    cases fault with
    | invalid reason => exact .inl rfl
    | failed => exact .inr rfl
  · rw [moves]
    intro c counted
    rcases List.mem_cons.1 counted with rfl | counted
    · exact .inr ⟨path, rfl⟩
    · cases fault with
      | invalid reason => exact .inl (List.mem_singleton.1 counted)
      | failed => exact absurd counted List.not_mem_nil

/-- Settings with a secret, all else as it is when nothing is set. -/
def exampleSettings (secret : String) : Settings where
  webhookSecret := some secret
  privateKey := none
  appId := none
  token := none
  logThreshold := .severity 30
  allowlist := none
  telegramToken := none
  telegramChat := none
  tokenLifetime := .finite false 300 0
  dryRun := false
  host := "0.0.0.0"
  port := 8080
  approvedLabel := "approved"
  bot := "@slab-ci"
  fastTarget := "cpu_fast_test"
  fullTargets := ["cpu_test"]

def exampleStatusCheck : Incoming := ⟨"GET", some "/status", [], .empty⟩

/-- A webhook whose body was changed after it was signed. -/
def exampleForgery : Incoming where
  method := "POST"
  path? := some "/webhook"
  headers := [("x-github-event", "pull_request"), ("x-github-delivery", "1"),
    ("content-type", "application/json"),
    ("x-hub-signature-256", signatureOf .sha256 "secret" (Utf8.encode "{}".toList))]
  body := .bytes (Utf8.encode "{ }".toList)

/-- A changed webhook between two checks of the status. -/
theorem changed_webhook_refused :
    exampleForgery.Forged "secret" ∧
      ∃ refused : Served Memory,
        serve Memory.ops (exampleSettings "secret") (fun _ => pure ()) .empty
            ([exampleStatusCheck] ++ exampleForgery :: [exampleStatusCheck]) =
          serve Memory.ops (exampleSettings "secret") (fun _ => pure ()) .empty
              [exampleStatusCheck] ++
            refused :: serve Memory.ops (exampleSettings "secret") (fun _ => pure ())
              refused.platform [exampleStatusCheck] ∧
        (refused.response.status = 400 ∨ refused.response.status = 500) := by
  have forged : exampleForgery.Forged "secret" := by
    refine ⟨by decide, rfl, fun algorithm => ?_⟩
    cases algorithm <;> decide +kernel
  obtain ⟨refused, answers, -, -, status, -⟩ := forged_webhook_without_effect Memory.ops
    (exampleSettings "secret") (fun _ => pure ()) "secret" rfl .empty [exampleStatusCheck]
    [exampleStatusCheck] exampleForgery forged
  exact ⟨forged, refused, answers, status⟩

end SuiteTrigger.Webhook
