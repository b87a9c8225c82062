import SuiteTrigger.Proofs.Sending
import SuiteTrigger.Proofs.Serving

namespace SuiteTrigger.Http.Client

variable {β : Type} {visit : β → Json → Except Failure (Visit β)} {c d : Client}
  {reference : String} {state : β} {outcome : Except CallError β} {n : Nat}

/-- The client is given the page that a reference leads to, and is `d` then. -/
def Gives (c : Client) (reference : String) (page : Page) (d : Client) : Prop :=
  ∃ url, target [] reference = .ok url ∧ c.send (c.pageRequest url) = (.ok page, d)

/-- What a scan comes to from a client, a reference and a state on, how many requests it sends, and
the client that it leaves. -/
inductive Scans (visit : β → Json → Except Failure (Visit β)) :
    Client → String → β → Except CallError β → Nat → Client → Prop
  | unled {c : Client} {reference : String} {state : β} {f : Failure}
      (led : target [] reference = .error f) :
      Scans visit c reference state (.error (.failure f)) 0 c
  | unanswered {c d : Client} {reference url : String} {state : β} {e : CallError}
      (led : target [] reference = .ok url) (raises : c.send (c.pageRequest url) = (.error e, d)) :
      Scans visit c reference state (.error e) 1 d
  | unread {c d : Client} {reference : String} {state : β} {page : Page} {f : Failure}
      (gives : c.Gives reference page d)
      (visited : page.items.bind (visitAll visit state) = .error f) :
      Scans visit c reference state (.error (.failure f)) 1 d
  | stopped {c d : Client} {reference : String} {state state' : β} {page : Page}
      (gives : c.Gives reference page d)
      (visited : page.items.bind (visitAll visit state) = .ok (.stop state')) :
      Scans visit c reference state (.ok state') 1 d
  | last {c d : Client} {reference : String} {state state' : β} {page : Page}
      (gives : c.Gives reference page d)
      (visited : page.items.bind (visitAll visit state) = .ok (.proceed state'))
      (ends : page.next = none) :
      Scans visit c reference state (.ok state') 1 d
  | later {c d e : Client} {reference next : String} {state state' : β} {page : Page}
      {outcome : Except CallError β} {n : Nat} (gives : c.Gives reference page d)
      (visited : page.items.bind (visitAll visit state) = .ok (.proceed state'))
      (names : page.next = some next) (rest : Scans visit d next state' outcome n e) :
      Scans visit c reference state outcome (n + 1) e

/-- A scan that is given a page goes on with what the visits of its items come to. -/
theorem scan_given {page : Page} (gives : c.Gives reference page d) :
    scan visit reference state c =
      match page.items.bind (visitAll visit state) with
      | .error f => (.error (.failure f), d)
      | .ok (.stop state) => (.ok state, d)
      | .ok (.proceed state) =>
        match page.next with
        | none => (.ok state, d)
        | some next => scan visit next state d := by
  obtain ⟨url, led, sent⟩ := gives
  rw [scan_eq, led]
  dsimp only
  exact sent ▸ rfl

theorem Scans.eq (scans : Scans visit c reference state outcome n d) :
    scan visit reference state c = (outcome, d) := by
  induction scans with
  | unled led => rw [scan_eq, led]
  | unanswered led raises =>
    rw [scan_eq, led]
    dsimp only
    rw [raises]
  | unread gives visited => rw [scan_given gives, visited]
  | stopped gives visited => rw [scan_given gives, visited]
  | last gives visited ends =>
    rw [scan_given gives, visited]
    dsimp only
    rw [ends]
  | later gives visited names rest ih =>
    rw [scan_given gives, visited]
    dsimp only
    rw [names]
    exact ih

/-- A client that is given a page took a reply for it, and what comes after that reply is still to
come. -/
theorem Gives.taken {page : Page} (gives : c.Gives reference page d) :
    ∃ reply, c.replies = reply :: d.replies ∧
      ∀ rest, (c.fed (reply :: rest)).Gives reference page (d.fed rest) := by
  obtain ⟨url, led, sent⟩ := gives
  have left := (send_leads c (c.pageRequest url)).replies
  rw [sent] at left
  cases script : c.replies with
  | nil =>
    rw [send, script] at sent
    cases sent
  | cons reply replies =>
    have remaining : d.replies = replies := by
      rw [left, script]
      rfl
    have received : (c.fed replies).receive (c.pageRequest url) reply = (.ok page, d) := by
      rw [send, script] at sent
      exact sent
    rw [receive_fed] at received
    obtain ⟨carried, after⟩ := Prod.mk.inj received
    refine ⟨reply, by rw [remaining], fun rest => ⟨url, led, ?_⟩⟩
    have left : (c.receive (c.pageRequest url) reply).2.fed rest = d.fed rest := by
      rw [← after]
      rfl
    exact (send_fed c (c.pageRequest url) reply rest).trans (Prod.ext carried left)

theorem scans_exist (visit : β → Json → Except Failure (Visit β)) (c : Client) (reference : String)
    (state : β) : ∃ outcome n d, Scans visit c reference state outcome n d := by
  -- the replies become fewer with every page
  induction left : c.replies.length using Nat.strongRecOn generalizing c reference state with
  | ind size ih =>
  cases led : target [] reference with
  | error f => exact ⟨_, _, _, .unled led⟩
  | ok url =>
    cases sent : c.send (c.pageRequest url) with
    | mk answered d =>
    cases answered with
    | error e => exact ⟨_, _, _, .unanswered led sent⟩
    | ok page =>
      have gives : c.Gives reference page d := ⟨url, led, sent⟩
      cases visited : page.items.bind (visitAll visit state) with
      | error f => exact ⟨_, _, _, .unread gives visited⟩
      | ok visit' =>
        cases visit' with
        | stop state' => exact ⟨_, _, _, .stopped gives visited⟩
        | proceed state' =>
          cases names : page.next with
          | none => exact ⟨_, _, _, .last gives visited names⟩
          | some next =>
            obtain ⟨reply, script, -⟩ := gives.taken
            have fewer : d.replies.length < size := by
              rw [← left, script]
              exact Nat.lt_succ_self _
            obtain ⟨outcome, n, e, rest⟩ := ih _ fewer d next state' rfl
            exact ⟨outcome, n + 1, e, .later gives visited names rest⟩

/-- A scan sends requests for pages, one for each that it asks for. -/
theorem Scans.leads (scans : Scans visit c reference state outcome n d) :
    ∃ gets, c.Leads 0 gets d ∧ gets.length = n ∧ ∀ r ∈ gets, r.verb = .get := by
  have one {c d : Client} {url : String} {answered : Except CallError Page}
      (sent : c.send (c.pageRequest url) = (answered, d)) :
      c.Leads 0 [c.pageRequest url] d ∧ ∀ r ∈ [c.pageRequest url], r.verb = .get := by
    have leads := send_leads c (c.pageRequest url)
    rw [sent] at leads
    refine ⟨leads, ?_⟩
    intro r inside
    rw [List.mem_singleton.1 inside]
    rfl
  induction scans with
  | unled led => exact ⟨[], .refl _, rfl, fun r inside => absurd inside List.not_mem_nil⟩
  | unanswered led raises => exact ⟨_, (one raises).1, rfl, (one raises).2⟩
  | unread gives visited | stopped gives visited | last gives visited ends =>
    obtain ⟨url, -, sent⟩ := gives
    exact ⟨_, (one sent).1, rfl, (one sent).2⟩
  | later gives visited names rest ih =>
    obtain ⟨url, -, sent⟩ := gives
    obtain ⟨gets, leads, length, get⟩ := ih
    refine ⟨_ :: gets, (one sent).1.trans leads, by rw [List.length_cons, length], ?_⟩
    intro r inside
    rcases List.mem_cons.1 inside with rfl | later
    · rfl
    · exact get r later

/-- What a scan gives depends on no reply behind those that it takes. -/
theorem Scans.fed (scans : Scans visit c reference state outcome n d) {value : β}
    (succeeds : outcome = .ok value) (rest : List Reply) :
    Scans visit (c.fed (c.replies.take n ++ rest)) reference state outcome n (d.fed rest) := by
  induction scans with
  | unled led | unanswered led raises | unread gives visited => nomatch succeeds
  | stopped gives visited =>
    obtain ⟨reply, script, others⟩ := gives.taken
    rw [script]
    exact .stopped (others rest) visited
  | last gives visited ends =>
    obtain ⟨reply, script, others⟩ := gives.taken
    rw [script]
    exact .last (others rest) visited ends
  | later gives visited names scans ih =>
    obtain ⟨reply, script, others⟩ := gives.taken
    rw [script]
    exact .later (others _) visited names (ih succeeds)

end SuiteTrigger.Http.Client
