import SuiteTrigger.Proofs.TaggedServers

namespace SuiteTrigger.Http.TaggedServer

variable {S ρ τ : Type} {server : TaggedServer S} {s : S} {c : Client}

section Scan

variable {β : Type} {visit : β → Json → Except Failure (Client.Visit β)} {reference url : String}
  {state : β}

/-- What a scan comes to at the items and the next link of a page: its outcome, or the page that it
goes on with and the state up to there. -/
def scanned (visit : β → Json → Except Failure (Client.Visit β)) (state : β) :
    Except CallError (Except Failure (List Json) × Option String) →
      Except CallError β ⊕ String × β
  | .error e => .inl (.error e)
  | .ok (items, next) =>
    match items.bind (Client.visitAll visit state), next with
    | .error f, _ => .inl (.error (.failure f))
    | .ok (.stop state), _ => .inl (.ok state)
    | .ok (.proceed state), none => .inl (.ok state)
    | .ok (.proceed state), some next => .inr (next, state)

/-- What a scan does after a page. -/
def scanOn (visit : β → Json → Except Failure (Client.Visit β)) (state : β)
    (asked : Except CallError (Except Failure (List Json) × Option String)) (c : Client) :
    Except CallError β × Client :=
  match scanned visit state asked with
  | .inl outcome => (outcome, c)
  | .inr (next, state) => Client.scan visit next state c

theorem scan_unled {f : Failure} (led : target [] reference = .error f) :
    Client.scan visit reference state = fun c => (.error (.failure f), c) := by
  funext c
  rw [Client.scan_eq, led]

theorem scan_led (led : target [] reference = .ok url) :
    Client.scan visit reference state = andThen (askPage url) (scanOn visit state) := by
  funext c
  rw [Client.scan_eq, led, andThen, askPage, sends]
  dsimp only
  generalize c.send (c.pageRequest url) = ran
  obtain ⟨outcome, d⟩ := ran
  cases outcome with
  | error e => rfl
  | ok page =>
    dsimp only [Except.map, scanOn, scanned]
    cases page.items.bind (Client.visitAll visit state) with
    | error f => rfl
    | ok visited =>
      cases visited with
      | stop state => rfl
      | proceed state => cases page.next <;> rfl

/-- After a page a scan leaves the client alone or goes on with the next page. -/
theorem scanOn_cases (visit : β → Json → Except Failure (Client.Visit β)) (state : β)
    (asked : Except CallError (Except Failure (List Json) × Option String)) :
    (∃ outcome, scanOn visit state asked = fun c => (outcome, c)) ∨
      ∃ items next state', asked = .ok (items, some next) ∧
        scanOn visit state asked = Client.scan visit next state' := by
  cases asked with
  | error e => exact .inl ⟨.error e, rfl⟩
  | ok page =>
    obtain ⟨items, next⟩ := page
    unfold scanOn scanned
    dsimp only
    cases items.bind (Client.visitAll visit state) with
    | error f => exact .inl ⟨_, rfl⟩
    | ok visited =>
      cases visited with
      | stop state => exact .inl ⟨_, rfl⟩
      | proceed state =>
        cases next with
        | none => exact .inl ⟨_, rfl⟩
        | some next => exact .inr ⟨items, next, state, rfl, rfl⟩

theorem still_draws (value : ρ) (c : Client) : Draws (fun c => (value, c)) c :=
  ⟨[], (List.append_nil _).symm, rfl⟩

theorem askPage_shorter {page : Except Failure (List Json) × Option String}
    (asked : (askPage url c).1 = .ok page) :
    (askPage url c).2.replies.length < c.replies.length := by
  have left : (askPage url c).2.replies = c.replies.drop 1 := (Client.send_leads c _).replies
  cases script : c.replies with
  | nil =>
    rw [askPage, sends, Client.send, script] at asked
    cases asked
  | cons reply replies =>
    rw [left, script]
    exact Nat.lt_succ_self _

theorem scan_draws (visit : β → Json → Except Failure (Client.Visit β)) (reference : String)
    (state : β) (c : Client) : Draws (Client.scan visit reference state) c := by
  -- the replies become fewer with every page
  induction size : c.replies.length using Nat.strongRecOn generalizing reference state c with
  | ind size' ih =>
    cases led : target [] reference with
    | error f =>
      rw [scan_unled led]
      exact still_draws _ c
    | ok url =>
      rw [scan_led led]
      refine Draws.andThen (sends_draws c) ?_
      rcases scanOn_cases visit state (askPage url c).1 with
        ⟨outcome, still⟩ | ⟨page, next, state', asked, goes⟩
      · rw [still]
        exact still_draws _ _
      · rw [goes]
        exact ih _ (size ▸ askPage_shorter asked) next state' _ rfl

theorem scanOn_draws (visit : β → Json → Except Failure (Client.Visit β)) (state : β)
    (asked : Except CallError (Except Failure (List Json) × Option String)) (c : Client) :
    Draws (scanOn visit state asked) c := by
  rcases scanOn_cases visit state asked with ⟨outcome, still⟩ | ⟨-, next, state', -, goes⟩
  · rw [still]
    exact still_draws _ c
  · rw [goes]
    exact scan_draws visit next state' c

/-- Scans of pages are transparent. -/
theorem scan_transparent (server : TaggedServer S)
    (visit : β → Json → Except Failure (Client.Visit β)) (reference : String) (state : β) :
    server.Transparent (Client.scan visit reference state) where
  draws := scan_draws visit reference state
  carries s c sent := by
    -- each page is one of the requests that are sent
    induction size : sent.length using Nat.strongRecOn generalizing reference state s c sent with
    | ind size' ih =>
      cases led : target [] reference with
      | error f =>
        rw [scan_unled led]
        exact (transparent_of_quiet (server.still_quiet _)).carries s c sent
      | ok url =>
        rw [scan_led led]
        refine .andThen (server.askPage_transparent url) (scanOn_draws visit state) ?_
        intro first second rest split takes
        obtain rfl := takes.sends fun _ _ => rfl
        have shorter : second.length < size' := by
          rw [← size, split]
          exact Nat.lt_succ_self _
        rcases scanOn_cases visit state
            (askPage url (c.fed (server.replies s sent ++ rest))).1 with
          ⟨outcome, still⟩ | ⟨-, next, state', -, goes⟩
        · rw [still]
          exact (transparent_of_quiet (server.still_quiet _)).carries _ _ second
        · rw [goes]
          exact ih _ shorter next state' _ _ second rfl

end Scan

/-- Against the server the step comes to an end: it sends some requests, takes the replies to them
and no other ones, and keeps pages of the server only. -/
def Finishes (server : TaggedServer S) (s : S) (f : Client → ρ × Client) (c : Client) : Prop :=
  ∃ sent value d, (∀ rest, f (c.fed (server.replies s sent ++ rest)) = (value, d.fed rest)) ∧
    d.requests = c.requests ++ sent ∧ server.Vouches d

/-- The step comes to an end with every client that keeps pages of the server. -/
def Total (server : TaggedServer S) (f : Client → ρ × Client) : Prop :=
  ∀ s c, server.Vouches c → server.Finishes s f c

/-- The next links of the pages come to an end, as some count of the pages behind an address shows.
-/
def PagesEnd (server : TaggedServer S) : Prop :=
  ∃ behind : String → Nat, ∀ s own url next url', (server.page s own url).next = some next →
    target [] next = .ok url' → behind url' < behind url

theorem Finishes.andThen {f : Client → ρ × Client} {g : ρ → Client → τ × Client}
    {sent : List Request} {value : ρ} {d : Client}
    (run : ∀ rest, f (c.fed (server.replies s sent ++ rest)) = (value, d.fed rest))
    (requests : d.requests = c.requests ++ sent)
    (later : server.Finishes (server.after s sent) (g value) d) :
    server.Finishes s (TaggedServer.andThen f g) c := by
  obtain ⟨more, outcome, e, run', requests', vouches⟩ := later
  refine ⟨sent ++ more, outcome, e, fun rest => ?_, ?_, vouches⟩
  · rw [TaggedServer.andThen, replies_append, List.append_assoc, run]
    exact run' rest
  · rw [requests', requests, List.append_assoc]

theorem Total.andThen {f : Client → ρ × Client} {g : ρ → Client → τ × Client}
    (total : server.Total f) (totalToo : ∀ value, server.Total (g value)) :
    server.Total (TaggedServer.andThen f g) := by
  intro s c vouches
  obtain ⟨sent, value, d, run, requests, vouches'⟩ := total s c vouches
  exact .andThen run requests (totalToo value _ d vouches')

theorem total_of_quiet {f : Client → ρ × Client} (quiet : server.Quiet f) : server.Total f := by
  intro s c vouches
  obtain ⟨-, after⟩ := quiet.same c c ⟨rfl, rfl, rfl, vouches, vouches⟩
  have requests : (f c).2.requests = c.requests ++ [] :=
    (quiet.silent c).trans (List.append_nil _).symm
  exact ⟨[], (f c).1, (f c).2, quiet.fed c, requests, after.vouches⟩

theorem receive_requests (c : Client) (r : Request) (reply : Reply) :
    (c.receive r reply).2.requests = c.requests ++ [r] := by
  obtain ⟨pages, received, -⟩ := c.receive_client r reply
  rw [received]
  rfl

theorem change_total (server : TaggedServer S) {verb : Verb} (other : verb ≠ .get)
    (url : String) (signs : Option Authorization → Option Authorization) (body : Option Json)
    (told : Except CallError Page → ρ) :
    server.Total (sends (fun c => ⟨verb, url, signs c.authorization, none, body⟩) told) := by
  intro s c vouches
  refine ⟨[_], _, _, sends_fed (fun _ _ => rfl) s c, receive_requests c _ _, ?_⟩
  rw [Client.receive_other other]
  exact vouches

/-- A page that is asked for is given, with the next link that it has now. -/
theorem askPage_run (vouches : server.Vouches c) (s : S) (url : String) :
    ∃ items next d, (∀ rest, askPage url (c.fed (server.replies s [c.pageRequest url] ++ rest)) =
        (.ok (items, next), d.fed rest)) ∧
      next = (server.page s c.authorization url).next ∧
      d.requests = c.requests ++ [c.pageRequest url] ∧ server.Vouches d := by
  obtain ⟨page, came, -, next, vouches'⟩ := receive_page vouches s url
  refine ⟨page.items, page.next, _, fun rest => ?_, next, receive_requests c _ _, vouches'⟩
  rw [askPage, sends_fed fun _ _ => rfl, came]
  rfl

/-- Scans come to an end when the next links do. -/
theorem scan_total (ends : server.PagesEnd) {β : Type}
    (visit : β → Json → Except Failure (Client.Visit β)) (reference : String) (state : β) :
    server.Total (Client.scan visit reference state) := by
  obtain ⟨behind, fewer⟩ := ends
  have still (value : Except CallError β) : server.Total fun c => (value, c) :=
    total_of_quiet (server.still_quiet value)
  intro s c vouches
  cases led : target [] reference with
  | error f =>
    rw [scan_unled led]
    exact still _ s c vouches
  | ok url =>
    -- every page has fewer pages behind it
    induction size : behind url using Nat.strongRecOn generalizing reference url state s c with
    | ind size' ih =>
      rw [scan_led led]
      obtain ⟨items, next, d, run, present, requests, vouches'⟩ := askPage_run vouches s url
      refine .andThen run requests ?_
      rcases scanOn_cases visit state (.ok (items, next)) with
        ⟨outcome, rest⟩ | ⟨items', next', state', same, goes⟩
      · rw [rest]
        exact still _ _ d vouches'
      · cases same
        rw [goes]
        cases led' : target [] next' with
        | error f =>
          rw [scan_unled led']
          exact still _ _ d vouches'
        | ok url' =>
          have less := fewer s c.authorization url next' url' present.symm led'
          exact ih _ (size ▸ less) next' state' _ d vouches' url' led' rfl

end SuiteTrigger.Http.TaggedServer
