import SuiteTrigger.Proofs.InstallationTokens
import SuiteTrigger.Proofs.Serving

/-!
# Servers that tag their pages

A server tags every page that it serves, and asked for a page under its present tag it answers that
the page did not change (`TaggedServer`). A client that keeps pages of such a server asks for them
under their tags, and so it gets the items and the next link of the page as it is now, whether it
kept the page or not (`TaggedServer.receive_page`). A step of a client is transparent when it comes
to the same and sends the same requests, but for the tags, whatever pages are kept
(`TaggedServer.Transparent`). Steps made of transparent steps are transparent
(`TaggedServer.Transparent.andThen`).
-/

namespace SuiteTrigger.Http

/-- A request without the mark of a page that is kept. -/
def Request.unmarked (r : Request) : Request := { r with ifNoneMatch := none }

/-- A code host with states `S` that tags its pages. A page is served as a whole, unless it is asked
for under its present tag, and one tag of an address stands for the same items and the same next
link. The state after a reply may be any, as labels may be edited by hand between two requests, but
the mark that a page is asked for under has no part in it. Requests that are not for pages are
replied to in any way. -/
structure TaggedServer (S : Type) where
  reply : S → Request → Reply × S
  page : S → Option Authorization → String → Page
  tag : S → Option Authorization → String → String
  whole : ∀ s (r : Request), r.verb = .get → r.ifNoneMatch ≠ some (tag s r.authorization r.url) →
    ∃ answer, (reply s r).1 = .answered answer ∧ answer.status = 200 ∧
      answer.headers.lookup "etag" = some (tag s r.authorization r.url) ∧
      answer.page = .ok (page s r.authorization r.url)
  unchanged : ∀ s (r : Request), r.verb = .get →
    r.ifNoneMatch = some (tag s r.authorization r.url) →
    ∃ answer, (reply s r).1 = .answered answer ∧ answer.status = 304
  unswayed : ∀ s (r : Request), r.verb = .get → (reply s r).2 = (reply s r.unmarked).2
  tells : ∀ s s' own own' url, tag s own url = tag s' own' url →
    (page s own url).items = (page s' own' url).items ∧
      (page s own url).next = (page s' own' url).next

namespace TaggedServer

variable {S ρ τ : Type} {server : TaggedServer S} {s : S} {c c' : Client}

def after (server : TaggedServer S) : S → List Request → S
  | s, [] => s
  | s, r :: sent => server.after (server.reply s r).2 sent

def replies (server : TaggedServer S) : S → List Request → List Reply
  | _, [] => []
  | s, r :: sent => (server.reply s r).1 :: server.replies (server.reply s r).2 sent

theorem after_append (server : TaggedServer S) (s : S) (first second : List Request) :
    server.after s (first ++ second) = server.after (server.after s first) second := by
  induction first generalizing s with
  | nil => rfl
  | cons r first ih => exact ih (server.reply s r).2

theorem replies_append (server : TaggedServer S) (s : S) (first second : List Request) :
    server.replies s (first ++ second) =
      server.replies s first ++ server.replies (server.after s first) second := by
  induction first generalizing s with
  | nil => rfl
  | cons r first ih => exact congrArg (_ :: ·) (ih (server.reply s r).2)

theorem length_replies (server : TaggedServer S) (s : S) (sent : List Request) :
    (server.replies s sent).length = sent.length := by
  induction sent generalizing s with
  | nil => rfl
  | cons r sent ih => exact congrArg (· + 1) (ih (server.reply s r).2)

/-- The pages that a client keeps were served with their tags. -/
def Vouches (server : TaggedServer S) (c : Client) : Prop :=
  ∀ url kept, c.kept? url = some kept →
    ∃ s own, kept = ⟨some (server.tag s own url), server.page s own url⟩

/-- Two clients that keep pages of the server and are the same in all else that steps depend on. -/
structure Akin (server : TaggedServer S) (c c' : Client) : Prop where
  authorization : c.authorization = c'.authorization
  tokens : c.tokens = c'.tokens
  callCount : c.callCount = c'.callCount
  vouches : server.Vouches c
  vouchesToo : server.Vouches c'

theorem lookup_filter {β : Type} (keeps : String → Bool) (url : String)
    (entries : List (String × β)) :
    (entries.filter fun entry => keeps entry.1).lookup url =
      if keeps url then entries.lookup url else none := by
  induction entries with
  | nil => exact (ite_self _).symm
  | cons entry entries ih =>
    obtain ⟨key, value⟩ := entry
    rw [List.filter_cons]
    dsimp only
    by_cases here : url = key
    · subst here
      cases kept : keeps url with
      | true => rw [if_pos rfl, if_pos rfl, List.lookup_cons_self, List.lookup_cons_self]
      | false =>
        rw [kept] at ih
        exact ih
    · have away : (url == key) = false := beq_eq_false_iff_ne.2 here
      rw [List.lookup_cons, away, ← ih]
      cases keeps key with
      | true => rw [if_pos rfl, List.lookup_cons, away]
      | false => rfl

/-- A page that was served with its tag may be kept. -/
theorem Vouches.keep (vouches : server.Vouches c) {own : Option Authorization} {url : String}
    {headers : Headers} (tagged : headers.lookup "etag" = some (server.tag s own url)) :
    server.Vouches (c.keep url headers (server.page s own url)) := by
  intro other kept found
  unfold Client.keep at found
  dsimp only at found
  rw [tagged, Option.isSome_some, Bool.true_or, if_pos rfl, Client.kept?] at found
  obtain ⟨entries, kept?, looked⟩ := Option.bind_eq_some_iff.1 found
  obtain ⟨pages, keeps, rfl⟩ := Option.map_eq_some_iff.1 kept?
  by_cases here : other = url
  · subst here
    rw [List.lookup_cons_self] at looked
    exact ⟨s, own, (Option.some.inj looked).symm⟩
  · have away : (other == url) = false := beq_eq_false_iff_ne.2 here
    rw [List.lookup_cons, away] at looked
    refine vouches other kept ?_
    have others := (lookup_filter (fun key => key ≠ url) other pages).symm.trans looked
    rw [if_pos (decide_eq_true here)] at others
    rw [Client.kept?, keeps]
    exact others

end TaggedServer

namespace Client

/-- A page that comes as a whole is kept and given on. -/
theorem receive_whole {r : Request} {answer : Answer} {page : Page} (get : r.verb = .get)
    (fresh : answer.status ≠ 304) (carries : answer.page = .ok page) (c : Client) :
    c.receive r (.answered answer) = (.ok page, (c.record r).keep r.url answer.headers page) := by
  unfold receive
  dsimp only
  rw [decide_eq_false fresh, carries, if_pos get]
  cases (c.record r).kept? r.url with
  | none => exact congrArg _ (if_pos get)
  | some kept => exact congrArg _ (if_pos get)

/-- A page that did not change is given on as it was kept. -/
theorem receive_unchanged {r : Request} {answer : Answer} {c : Client} {kept : KeptPage}
    (get : r.verb = .get) (same : answer.status = 304) (keeps : c.kept? r.url = some kept) :
    c.receive r (.answered answer) = (.ok kept.page, c.record r) := by
  have recorded : (c.record r).kept? r.url = some kept := keeps
  unfold receive
  dsimp only
  rw [if_pos get, recorded, decide_eq_true same]

end Client

namespace TaggedServer

variable {S ρ τ : Type} {server : TaggedServer S} {c c' : Client}

theorem receive_page (vouches : server.Vouches c) (s : S) (url : String) :
    ∃ page, (c.receive (c.pageRequest url) (server.reply s (c.pageRequest url)).1).1 = .ok page ∧
      page.items = (server.page s c.authorization url).items ∧
      page.next = (server.page s c.authorization url).next ∧
      server.Vouches (c.receive (c.pageRequest url) (server.reply s (c.pageRequest url)).1).2 := by
  by_cases present :
      (c.pageRequest url).ifNoneMatch = some (server.tag s c.authorization url)
  · obtain ⟨answer, replied, same⟩ := server.unchanged s (c.pageRequest url) rfl present
    obtain ⟨kept, keeps, mark⟩ := Option.bind_eq_some_iff.1 present
    obtain ⟨s', own, served⟩ := vouches url kept keeps
    subst served
    obtain ⟨items, next⟩ := server.tells s' s own c.authorization url (Option.some.inj mark)
    rw [replied, Client.receive_unchanged rfl same keeps]
    exact ⟨_, rfl, items, next, vouches⟩
  · obtain ⟨answer, replied, ok, tagged, carries⟩ := server.whole s (c.pageRequest url) rfl present
    have fresh : answer.status ≠ 304 := by rw [ok]; decide
    rw [replied, Client.receive_whole rfl fresh carries]
    have recorded : server.Vouches (c.record (c.pageRequest url)) := vouches
    exact ⟨_, rfl, rfl, rfl, recorded.keep tagged⟩

/-! ## Transparent steps -/

/-- A step sends requests and takes one reply for each of them, as long as there are any. -/
def Draws (f : Client → ρ × Client) (c : Client) : Prop :=
  ∃ sent, (f c).2.requests = c.requests ++ sent ∧ (f c).2.replies = c.replies.drop sent.length

/-- Fed with the replies of the server to the requests in `sent`, the step sends just these and
leaves the replies behind them. -/
structure Takes (server : TaggedServer S) (s : S) (f : Client → ρ × Client) (c : Client)
    (sent : List Request) (rest : List Reply) : Prop where
  requests : (f (c.fed (server.replies s sent ++ rest))).2.requests = c.requests ++ sent
  replies : (f (c.fed (server.replies s sent ++ rest))).2.replies = rest

/-- With client `c'` the step gives `value` as well. It sends the same requests but for the marks,
and no other ones, and it leaves the server in the same state and a client akin to `d`. -/
structure Follows (server : TaggedServer S) (s : S) (f : Client → ρ × Client) (value : ρ)
    (sent : List Request) (d : Client) (c' : Client) (sent' : List Request) (d' : Client) :
    Prop where
  run : ∀ rest, f (c'.fed (server.replies s sent' ++ rest)) = (value, d'.fed rest)
  requests : d'.requests = c'.requests ++ sent'
  unmarked : sent'.map Request.unmarked = sent.map Request.unmarked
  after : server.after s sent' = server.after s sent
  akin : server.Akin d d'
  only : ∀ other rest, server.Takes s f c' other rest → other = sent'

/-- What the step comes to with client `c` and the requests in `sent`, it comes to with every client
that is akin. -/
def Carries (server : TaggedServer S) (s : S) (f : Client → ρ × Client) (c : Client)
    (sent : List Request) : Prop :=
  ∀ rest, server.Takes s f c sent rest → ∀ c', server.Akin c c' →
    ∃ sent' d', server.Follows s f (f (c.fed (server.replies s sent ++ rest))).1 sent
      (f (c.fed (server.replies s sent ++ rest))).2 c' sent' d'

/-- A step comes to the same whatever pages of the server are kept. -/
structure Transparent (server : TaggedServer S) (f : Client → ρ × Client) : Prop where
  draws : ∀ c, Draws f c
  carries : ∀ s c sent, server.Carries s f c sent

/-- The step that sends one request and tells something of what comes of it. -/
def sends (request : Client → Request) (told : Except CallError Page → ρ) (c : Client) :
    ρ × Client :=
  (told (c.send (request c)).1, (c.send (request c)).2)

section Sends

variable {request : Client → Request} {told : Except CallError Page → ρ}

theorem sends_draws (c : Client) : Draws (sends request told) c :=
  ⟨[request c], (Client.send_leads c _).requests, (Client.send_leads c _).replies⟩

theorem Takes.sends {s : S} {sent : List Request} {rest : List Reply}
    (steady : ∀ c rest, request (c.fed rest) = request c)
    (takes : server.Takes s (sends request told) c sent rest) : sent = [request c] := by
  have only := (Client.send_leads (c.fed (server.replies s sent ++ rest))
    (request (c.fed (server.replies s sent ++ rest)))).requests
  rw [steady] at only
  have all := takes.requests
  rw [TaggedServer.sends, steady] at all
  exact List.append_cancel_left (all.symm.trans only)

theorem sends_fed (steady : ∀ c rest, request (c.fed rest) = request c) (s : S) (c : Client)
    (rest : List Reply) :
    sends request told (c.fed (server.replies s [request c] ++ rest)) =
      (told (c.receive (request c) (server.reply s (request c)).1).1,
        (c.receive (request c) (server.reply s (request c)).1).2.fed rest) := by
  have fed : c.fed (server.replies s [request c] ++ rest) =
      c.fed ((server.reply s (request c)).1 :: rest) := rfl
  rw [sends, steady, fed, Client.send_fed]

/-- A request is transparent when it is the same but for its mark, and gives the same, with clients
that are akin. -/
theorem sends_transparent (steady : ∀ c rest, request (c.fed rest) = request c)
    (same : ∀ s c c', server.Akin c c' →
      (request c').unmarked = (request c).unmarked ∧
      (server.reply s (request c')).2 = (server.reply s (request c)).2 ∧
      told (c'.receive (request c') (server.reply s (request c')).1).1 =
        told (c.receive (request c) (server.reply s (request c)).1).1)
    (vouched : ∀ s c, server.Vouches c →
      server.Vouches (c.receive (request c) (server.reply s (request c)).1).2) :
    server.Transparent (sends request told) where
  draws := sends_draws
  carries s c sent rest takes c' akin := by
    obtain rfl := takes.sends steady
    obtain ⟨unmarked, after, value⟩ := same s c c' akin
    obtain ⟨pages, received, -⟩ := c.receive_client (request c) (server.reply s (request c)).1
    obtain ⟨pages', received', -⟩ := c'.receive_client (request c') (server.reply s (request c')).1
    have vouches := vouched s c akin.vouches
    have vouchesToo := vouched s c' akin.vouchesToo
    rw [sends_fed steady]
    refine ⟨[request c'], (c'.receive (request c') (server.reply s (request c')).1).2, ?_⟩
    rw [received] at vouches ⊢
    rw [received'] at vouchesToo ⊢
    refine ⟨fun rest => ?_, rfl, congrArg ([·]) unmarked, after, ?_,
      fun other rest takes => takes.sends steady⟩
    · rw [sends_fed steady, value, received']
    · exact ⟨akin.authorization, akin.tokens, akin.callCount, vouches, vouchesToo⟩

end Sends

/-- Asks for a page and gives its items and its next link. -/
def askPage (url : String) (c : Client) :
    Except CallError (Except Failure (List Json) × Option String) × Client :=
  sends (·.pageRequest url) (·.map fun page => (page.items, page.next)) c

/-- Whatever pages of the server are kept, a page is given as it is now. -/
theorem askPage_transparent (server : TaggedServer S) (url : String) :
    server.Transparent (askPage url) := by
  refine sends_transparent (fun _ _ => rfl) ?_ ?_
  · intro s c c' akin
    obtain ⟨page, came, items, next, -⟩ := receive_page akin.vouches s url
    obtain ⟨page', came', items', next', -⟩ := receive_page akin.vouchesToo s url
    have unmarked : (c'.pageRequest url).unmarked = (c.pageRequest url).unmarked := by
      rw [Client.pageRequest, Client.pageRequest, akin.authorization]
      rfl
    refine ⟨unmarked, ?_, ?_⟩
    · rw [server.unswayed s (c'.pageRequest url) rfl, server.unswayed s (c.pageRequest url) rfl,
        unmarked]
    · rw [came, came']
      dsimp only [Except.map]
      rw [items, items', next, next', akin.authorization]
  · intro s c vouches
    obtain ⟨-, -, -, -, vouched⟩ := receive_page vouches s url
    exact vouched

/-- A request that changes something is the same whatever pages are kept, and so is what comes of
it. -/
theorem change_transparent (server : TaggedServer S) {verb : Verb} (other : verb ≠ .get)
    (url : String) (signs : Option Authorization → Option Authorization) (body : Option Json)
    (told : Except CallError Page → ρ) :
    server.Transparent
      (sends (fun c => ⟨verb, url, signs c.authorization, none, body⟩) told) := by
  refine sends_transparent (fun _ _ => rfl) ?_ ?_
  · intro s c c' akin
    rw [akin.authorization, Client.receive_other other, Client.receive_other other]
    exact ⟨rfl, rfl, rfl⟩
  · intro s c vouches
    rw [Client.receive_other other]
    exact vouches

/-- A step after which comes another that its value decides. -/
def andThen (f : Client → ρ × Client) (g : ρ → Client → τ × Client) (c : Client) : τ × Client :=
  g (f c).1 (f c).2

section AndThen

variable {f : Client → ρ × Client} {g : ρ → Client → τ × Client} {s : S} {sent : List Request}
  {rest : List Reply}

theorem Draws.andThen (draws : Draws f c) (drawsToo : Draws (g (f c).1) (f c).2) :
    Draws (andThen f g) c := by
  obtain ⟨first, requests, replies⟩ := draws
  obtain ⟨second, requests', replies'⟩ := drawsToo
  refine ⟨first ++ second, ?_, ?_⟩
  · rw [TaggedServer.andThen, requests', requests, List.append_assoc]
  · rw [TaggedServer.andThen, replies', replies, List.drop_drop, List.length_append]

/-- What two steps take together, the first takes and then the second. -/
theorem Takes.split (draws : ∀ c, Draws f c) (drawsToo : ∀ value c, Draws (g value) c)
    (takes : server.Takes s (TaggedServer.andThen f g) c sent rest) :
    ∃ first second, sent = first ++ second ∧
      server.Takes s f c first (server.replies (server.after s first) second ++ rest) ∧
      server.Takes (server.after s first)
        (g (f (c.fed (server.replies s sent ++ rest))).1)
        (f (c.fed (server.replies s sent ++ rest))).2 second rest ∧
      (f (c.fed (server.replies s sent ++ rest))).2.replies =
        server.replies (server.after s first) second ++ rest := by
  obtain ⟨first, requests, replies⟩ := draws (c.fed (server.replies s sent ++ rest))
  obtain ⟨second, requests', -⟩ := drawsToo (f (c.fed (server.replies s sent ++ rest))).1
    (f (c.fed (server.replies s sent ++ rest))).2
  have all : sent = first ++ second := by
    have both := takes.requests
    rw [TaggedServer.andThen, requests', requests, List.append_assoc] at both
    exact (List.append_cancel_left both).symm
  subst all
  have left : (f (c.fed (server.replies s (first ++ second) ++ rest))).2.replies =
      server.replies (server.after s first) second ++ rest := by
    have dropped : (server.replies s (first ++ second) ++ rest).drop first.length =
        server.replies (server.after s first) second ++ rest := by
      rw [replies_append, List.append_assoc, ← server.length_replies s first, List.drop_left]
    exact replies.trans dropped
  refine ⟨first, second, rfl, ?_, ?_, left⟩
  · rw [replies_append, List.append_assoc] at requests left
    exact ⟨requests, left⟩
  · have fed : (f (c.fed (server.replies s (first ++ second) ++ rest))).2.fed
        (server.replies (server.after s first) second ++ rest) =
          (f (c.fed (server.replies s (first ++ second) ++ rest))).2 := by
      rw [← left]
      rfl
    refine ⟨?_, ?_⟩
    · rw [fed, requests']
    · rw [fed]
      exact takes.replies

theorem Follows.andThen {value : ρ} {outcome : τ} {first second first' second' : List Request}
    {d d' e e' : Client} (draws : ∀ c, Draws f c) (drawsToo : ∀ value c, Draws (g value) c)
    (follows : server.Follows s f value first d c' first' d')
    (follows' : server.Follows (server.after s first) (g value) outcome second e d' second' e') :
    server.Follows s (TaggedServer.andThen f g) outcome (first ++ second) e c'
      (first' ++ second') e' := by
  have ran (later : List Request) (more : List Reply) :
      f (c'.fed (server.replies s (first' ++ later) ++ more)) =
        (value, d'.fed (server.replies (server.after s first) later ++ more)) := by
    rw [replies_append, List.append_assoc, follows.run, follows.after]
  refine ⟨?_, ?_, ?_, ?_, follows'.akin, ?_⟩
  · intro more
    rw [TaggedServer.andThen, ran]
    exact follows'.run more
  · rw [follows'.requests, follows.requests, List.append_assoc]
  · rw [List.map_append, List.map_append, follows.unmarked, follows'.unmarked]
  · rw [after_append, after_append, follows.after, follows'.after]
  · intro other more takes
    obtain ⟨begun, ended, split, takesBegun, takesEnded, -⟩ := takes.split draws drawsToo
    obtain rfl := follows.only _ _ takesBegun
    rw [split, ran, follows.after] at takesEnded
    rw [split, follows'.only ended more ⟨takesEnded.requests, takesEnded.replies⟩]

/-- Two steps carry over when the first is transparent and the second carries over from where the
first has come to. -/
theorem Carries.andThen (transparent : server.Transparent f)
    (drawsToo : ∀ value c, Draws (g value) c)
    (later : ∀ first second rest, sent = first ++ second →
      server.Takes s f c first (server.replies (server.after s first) second ++ rest) →
      server.Carries (server.after s first) (g (f (c.fed (server.replies s sent ++ rest))).1)
        (f (c.fed (server.replies s sent ++ rest))).2 second) :
    server.Carries s (TaggedServer.andThen f g) c sent := by
  intro rest takes c' akin
  obtain ⟨first, second, split, takesFirst, takesSecond, left⟩ :=
    takes.split transparent.draws drawsToo
  have carries := later first second rest split takesFirst
  obtain ⟨first', d', follows⟩ := transparent.carries s c first _ takesFirst c' akin
  have whole : server.replies s first ++ (server.replies (server.after s first) second ++ rest) =
      server.replies s sent ++ rest := by
    rw [split, replies_append, List.append_assoc]
  rw [whole] at follows
  unfold TaggedServer.andThen
  generalize f (c.fed (server.replies s sent ++ rest)) = ran at *
  obtain ⟨second', e', follows'⟩ := carries rest takesSecond d' follows.akin
  -- the first step has left the replies that the second one takes
  have fed : ran.2.fed (server.replies (server.after s first) second ++ rest) = ran.2 := by
    rw [← left]
    rfl
  rw [fed] at follows'
  exact ⟨first' ++ second', e', split ▸ follows.andThen transparent.draws drawsToo follows'⟩

theorem Transparent.andThen (transparent : server.Transparent f)
    (transparentToo : ∀ value, server.Transparent (g value)) :
    server.Transparent (TaggedServer.andThen f g) where
  draws c := (transparent.draws c).andThen ((transparentToo _).draws _)
  carries _ _ _ := .andThen transparent (fun value => (transparentToo value).draws)
    fun _ second _ _ _ => (transparentToo _).carries _ _ second

end AndThen

/-- A step that sends no request, leaves the replies alone, and gives the same with clients that are
akin. -/
structure Quiet (server : TaggedServer S) (f : Client → ρ × Client) : Prop where
  silent : ∀ c, (f c).2.requests = c.requests
  fed : ∀ c rest, f (c.fed rest) = ((f c).1, (f c).2.fed rest)
  same : ∀ c c', server.Akin c c' → (f c).1 = (f c').1 ∧ server.Akin (f c).2 (f c').2

theorem Quiet.takes {f : Client → ρ × Client} (quiet : server.Quiet f) {s : S}
    {sent : List Request} {rest : List Reply} (takes : server.Takes s f c sent rest) :
    sent = [] := by
  have nothing := takes.requests
  rw [quiet.silent] at nothing
  exact List.append_right_eq_self.1 nothing.symm

theorem transparent_of_quiet {f : Client → ρ × Client} (quiet : server.Quiet f) :
    server.Transparent f where
  draws c := by
    refine ⟨[], (quiet.silent c).trans (List.append_nil _).symm, ?_⟩
    have own : f c = ((f c).1, (f c).2.fed c.replies) := quiet.fed c c.replies
    rw [own]
    rfl
  carries s c sent rest takes c' akin := by
    obtain rfl := quiet.takes takes
    obtain ⟨value, after⟩ := quiet.same c c' akin
    refine ⟨[], (f c').2, fun more => ?_, ?_, rfl, rfl, ?_, fun _ _ => quiet.takes⟩
    · rw [quiet.fed, quiet.fed, value]
      rfl
    · rw [quiet.silent, List.append_nil]
    · rw [quiet.fed]
      exact ⟨after.authorization, after.tokens, after.callCount, after.vouches, after.vouchesToo⟩

theorem still_quiet (server : TaggedServer S) (value : ρ) : server.Quiet fun c => (value, c) :=
  ⟨fun _ => rfl, fun _ _ => rfl, fun _ _ akin => ⟨rfl, akin⟩⟩

end TaggedServer

end SuiteTrigger.Http
