import DependencyAudit.Watchlist.Download
import Mathlib.Data.List.Basic

namespace DependencyAudit.Download

/-- What is done with a client, and from outside with one of its sessions. -/
inductive Action where
  | enter
  | exit
  | fetchText (url : Text)
  | fetchWatchlist (url : Text)
  | close (place : Nat)
deriving DecidableEq

def Action.isFetch : Action → Bool
  | fetchText _ | fetchWatchlist _ => true
  | enter | exit | close _ => false

/-- The reply leads to a fault: the request is not answered, or it is and the text cannot be read. -/
inductive Reply.Raises (f : Fault) : Reply → Prop
  | unanswered : Raises f (.failure f)
  | unread (reason : Option Text) : Raises f (.response 200 reason (.error f))

/-- The reply leads to no text: for its status, or for a fault that is expected. -/
inductive Reply.IsLost : Reply → Prop
  | status {status : Int} (other : status ≠ 200) (reason : Option Text) (body : Except Fault Text) :
    IsLost (.response status reason body)
  | fault {f : Fault} {r : Reply} (expected : f.isExpected = true) (raised : r.Raises f) : IsLost r

theorem Reply.Raises.unique {f g : Fault} {r : Reply} (hf : r.Raises f) (hg : r.Raises g) : f = g := by
  cases hf with
  | unanswered =>
    cases hg
    rfl
  | unread reason =>
    cases hg
    rfl

namespace Client

def perform (c : Client) : Action → Client
  | .enter => c.enter
  | .exit => c.exit
  | .fetchText url => (c.fetchText url).client
  | .fetchWatchlist url => (c.fetchWatchlist url).client
  | .close i => c.closeAt i

def performAll (c : Client) (as : List Action) : Client := as.foldl perform c

def isOpenAt (c : Client) (i : Nat) : Bool := c.sessions[i]?.any (·.isOpen)

def requestedAt (c : Client) (i : Nat) : List Text := (c.sessions[i]?.map (·.requested)).getD []

/-- How many of the sessions are the caller's: the first one, if any. -/
def supplied (given : Bool) : Nat := if given then 1 else 0

/-- What every action keeps: the session in use is the newest one, a client owns it unless the caller has supplied it, and
of its own sessions all but the newest are closed. -/
structure Sound (given : Bool) (c : Client) : Prop where
  supplied_le : supplied given ≤ c.sessions.length
  current : c.current = if c.sessions.length = 0 then none else some (c.sessions.length - 1)
  owns : c.owns = true ↔ given = false ∨ 1 < c.sessions.length
  earlier : ∀ i, supplied given ≤ i → i + 1 < c.sessions.length → c.isOpenAt i = false

/-- What holds of a client after any actions. The caller's session is open unless it was closed from outside, at most one
of the client's own is, and none is after an exit. The next fetch, of a text or of a watchlist, is one request over an open
session, and gives what the next reply carries. -/
structure Managed (given : Bool) (replies : List Reply) (as : List Action) (c : Client) : Prop where
  lent : given = true → (c.isOpenAt 0 = true ↔ .close 0 ∉ as)
  single : ∀ i j, supplied given ≤ i → supplied given ≤ j → c.isOpenAt i = true → c.isOpenAt j = true → i = j
  exited : ∀ i, supplied given ≤ i → c.exit.isOpenAt i = false
  requested : ∀ url, ∃ i, (c.fetchText url).client.isOpenAt i = true ∧
    (c.fetchText url).client.requestedAt i = c.requestedAt i ++ [url] ∧
    ∀ j, j ≠ i → (c.fetchText url).client.requestedAt j = c.requestedAt j
  read : ∀ url reply, replies[as.countP Action.isFetch]? = some reply → ∀ t, (c.fetchText url).result = .ok t ↔
    (∃ reason, reply = .response 200 reason (.ok t)) ∨ t = [] ∧ reply.IsLost
  raised : ∀ url reply, replies[as.countP Action.isFetch]? = some reply → ∀ f, (c.fetchText url).result = .error f ↔
    f.isExpected = false ∧ reply.Raises f
  watchlist : ∀ url, (c.fetchWatchlist url).client = (c.fetchText url).client ∧
    (c.fetchWatchlist url).result = (c.fetchText url).result.map Watchlist.parse

section Views

variable {c : Client} {i : Nat}

theorem performAll_cons (c : Client) (a : Action) (as : List Action) :
    c.performAll (a :: as) = (c.perform a).performAll as := rfl

theorem lt_of_isOpenAt (h : c.isOpenAt i = true) : i < c.sessions.length := by
  by_contra outside
  rw [isOpenAt, List.getElem?_eq_none (by omega)] at h
  cases h

theorem isOpenAt_closeAt (c : Client) (i j : Nat) :
    (c.closeAt i).isOpenAt j = (c.isOpenAt j && decide (i ≠ j)) := by
  rw [isOpenAt, closeAt, List.getElem?_modify]
  by_cases here : i = j
  · subst here
    cases found : c.sessions[i]? <;> simp [isOpenAt, found]
  · simp [isOpenAt, here]

theorem openCurrent?_eq_some : c.openCurrent? = some i ↔ c.current = some i ∧ c.isOpenAt i = true := by
  rw [openCurrent?, Option.filter_eq_some_iff]
  rfl

theorem openCurrent?_eq_none : c.openCurrent? = none ↔ ∀ i, c.current = some i → c.isOpenAt i = false := by
  rw [openCurrent?, Option.filter_eq_none_iff]
  simp [isOpenAt]

/-- A session in use that is open is kept, otherwise a new one is made. -/
theorem ensureOpen_cases (c : Client) :
    (∃ i, c.current = some i ∧ c.isOpenAt i = true ∧ c.ensureOpen = c) ∨
    ((∀ i, c.current = some i → c.isOpenAt i = false) ∧
      c.ensureOpen = ⟨c.sessions ++ [⟨true, []⟩], some c.sessions.length, true, c.replies⟩) := by
  cases inUse : c.openCurrent? with
  | some i =>
    obtain ⟨current, isOpen⟩ := openCurrent?_eq_some.1 inUse
    exact .inl ⟨i, current, isOpen, by rw [ensureOpen, inUse]⟩
  | none => exact .inr ⟨openCurrent?_eq_none.1 inUse, by rw [ensureOpen, inUse]⟩

theorem isOpenAt_new (c : Client) (i : Nat) (owns : Bool) (current : Option Nat) (replies : List Reply) :
    isOpenAt ⟨c.sessions ++ [⟨true, []⟩], current, owns, replies⟩ i = (c.isOpenAt i || decide (i = c.sessions.length)) := by
  rw [isOpenAt, isOpenAt, List.getElem?_append]
  by_cases inside : i < c.sessions.length
  · have other : i ≠ c.sessions.length := by omega
    simp [inside, other]
  · by_cases new : i = c.sessions.length
    · simp [new]
    · have outside : i - c.sessions.length ≠ 0 := by omega
      simp [inside, new, outside]

theorem replies_ensureOpen (c : Client) : c.ensureOpen.replies = c.replies := by
  rw [ensureOpen]
  split <;> rfl

/-- A request goes out over the session in use once that is open, and takes the next reply. -/
theorem request_client (c : Client) (url : Text) : ∃ i, c.ensureOpen.current = some i ∧ c.ensureOpen.isOpenAt i = true ∧
    (c.request url).2 = ⟨c.ensureOpen.sessions.modify i fun s => { s with requested := s.requested ++ [url] }, some i,
      c.ensureOpen.owns, c.replies.tail⟩ := by
  obtain ⟨i, current, isOpen⟩ : ∃ i, c.ensureOpen.current = some i ∧ c.ensureOpen.isOpenAt i = true := by
    obtain ⟨i, current, isOpen, same⟩ | ⟨-, made⟩ := ensureOpen_cases c
    · exact ⟨i, by rw [same, current], by rw [same, isOpen]⟩
    · refine ⟨c.sessions.length, by rw [made], ?_⟩
      rw [made, isOpenAt_new]
      simp
  refine ⟨i, current, isOpen, ?_⟩
  rw [request, current, replies_ensureOpen]
  cases replies : c.replies <;> simp

theorem fetchText_client (c : Client) (url : Text) : (c.fetchText url).client = (c.request url).2 := rfl

theorem fetchWatchlist_client (c : Client) (url : Text) : (c.fetchWatchlist url).client = (c.fetchText url).client := by
  rw [fetchWatchlist]
  cases (c.fetchText url).result <;> rfl

theorem fetchWatchlist_result (c : Client) (url : Text) :
    (c.fetchWatchlist url).result = (c.fetchText url).result.map Watchlist.parse := by
  rw [fetchWatchlist]
  cases (c.fetchText url).result <;> rfl

theorem isOpenAt_fetchText (c : Client) (url : Text) (i : Nat) :
    (c.fetchText url).client.isOpenAt i = c.ensureOpen.isOpenAt i := by
  obtain ⟨j, -, -, sent⟩ := request_client c url
  rw [fetchText_client, sent, isOpenAt, isOpenAt, List.getElem?_modify]
  by_cases here : j = i
  · cases found : c.ensureOpen.sessions[i]? <;> simp [here]
  · simp [here]

end Views

section Invariant

variable {given : Bool} {c d : Client}

theorem sound_start (given : Bool) (replies : List Reply) : Sound given (start given replies) := by
  cases given <;> constructor <;> simp [start, supplied]

/-- Sessions may be closed and asked for addresses as long as none is made or taken into use. -/
theorem Sound.congr (h : Sound given c) (length : d.sessions.length = c.sessions.length) (current : d.current = c.current)
    (owns : d.owns = c.owns) (closed : ∀ i, c.isOpenAt i = false → d.isOpenAt i = false) : Sound given d := by
  constructor
  · rw [length]
    exact h.supplied_le
  · rw [current, length]
    exact h.current
  · rw [owns, length]
    exact h.owns
  · intro i own older
    rw [length] at older
    exact closed i (h.earlier i own older)

theorem Sound.closeAt (h : Sound given c) (i : Nat) : Sound given (c.closeAt i) := by
  refine h.congr ?_ rfl rfl ?_
  · simp [Client.closeAt]
  · intro j shut
    rw [isOpenAt_closeAt, shut]
    rfl

/-- A session that is not the newest is closed or the caller's, and so is the newest if it is not open. -/
theorem Sound.eq_newest (h : Sound given c) {i : Nat} (own : supplied given ≤ i) (isOpen : c.isOpenAt i = true) :
    c.current = some i := by
  have inside : i < c.sessions.length := lt_of_isOpenAt isOpen
  have newest : i + 1 = c.sessions.length := by
    by_contra older
    have shut := h.earlier i own (by omega)
    rw [isOpen] at shut
    cases shut
  rw [h.current, if_neg (by omega)]
  congr 1
  omega

theorem Sound.ensureOpen (h : Sound given c) : Sound given c.ensureOpen := by
  obtain ⟨i, -, -, same⟩ | ⟨shut, made⟩ := ensureOpen_cases c
  · rw [same]
    exact h
  · have supplied_le := h.supplied_le
    rw [made]
    constructor
    · rw [List.length_append]
      omega
    · simp
    · cases given with
      | false => simp
      | true => simpa [supplied, Nat.one_le_iff_ne_zero, Nat.pos_iff_ne_zero] using supplied_le
    · intro i own older
      rw [List.length_append, List.length_singleton] at older
      rw [isOpenAt_new, Bool.or_eq_false_iff]
      refine ⟨?_, by simp; omega⟩
      rw [Bool.eq_false_iff]
      intro isOpen
      rw [shut i (h.eq_newest own isOpen)] at isOpen
      cases isOpen

theorem Sound.fetchText (h : Sound given c) (url : Text) : Sound given (c.fetchText url).client := by
  obtain ⟨i, current, -, sent⟩ := request_client c url
  refine h.ensureOpen.congr ?_ ?_ ?_ ?_
  · rw [fetchText_client, sent, List.length_modify]
  · rw [fetchText_client, sent, current]
  · rw [fetchText_client, sent]
  · intro j shut
    rw [isOpenAt_fetchText, shut]

theorem Sound.exit (h : Sound given c) : Sound given c.exit := by
  rw [Client.exit]
  cases c.openCurrent? with
  | none => exact h
  | some i =>
    cases c.owns with
    | true => exact h.closeAt i
    | false => exact h

theorem Sound.perform (h : Sound given c) (a : Action) : Sound given (c.perform a) := by
  cases a with
  | enter => exact h.ensureOpen
  | exit => exact h.exit
  | fetchText url => exact h.fetchText url
  | fetchWatchlist url =>
    rw [Client.perform, fetchWatchlist_client]
    exact h.fetchText url
  | close i => exact h.closeAt i

theorem Sound.performAll (h : Sound given c) (as : List Action) : Sound given (c.performAll as) := by
  induction as generalizing c with
  | nil => exact h
  | cons a as ih => exact ih (h.perform a)

/-- An exit leaves no session of the client's own open. -/
theorem Sound.isOpenAt_exit (h : Sound given c) {i : Nat} (own : supplied given ≤ i) : c.exit.isOpenAt i = false := by
  rw [Bool.eq_false_iff]
  intro isOpen
  cases inUse : c.openCurrent? with
  | none =>
    rw [Client.exit, inUse] at isOpen
    rw [openCurrent?_eq_none.1 inUse i (h.eq_newest own isOpen)] at isOpen
    cases isOpen
  | some j =>
    obtain ⟨current, -⟩ := openCurrent?_eq_some.1 inUse
    rw [Client.exit, inUse] at isOpen
    cases owns : c.owns with
    | true =>
      simp only [owns, if_true, isOpenAt_closeAt, Bool.and_eq_true, decide_eq_true_eq] at isOpen
      have newest := h.eq_newest own isOpen.1
      rw [current] at newest
      exact isOpen.2 (Option.some.inj newest)
    | false =>
      simp only [owns, Bool.false_eq_true, if_false] at isOpen
      have inside : i < c.sessions.length := lt_of_isOpenAt isOpen
      have lent : ¬ (given = false ∨ 1 < c.sessions.length) := mt h.owns.2 (by simp [owns])
      cases given with
      | false => exact lent (.inl rfl)
      | true =>
        have own : 1 ≤ i := own
        exact lent (.inr (by omega))

/-- The session of the caller stays open but for being closed from outside. -/
theorem Sound.isOpenAt_supplied (h : Sound true c) (a : Action) :
    (c.perform a).isOpenAt 0 = (c.isOpenAt 0 && decide (a ≠ .close 0)) := by
  have there : 1 ≤ c.sessions.length := h.supplied_le
  have kept : c.ensureOpen.isOpenAt 0 = c.isOpenAt 0 := by
    obtain ⟨i, -, -, same⟩ | ⟨-, made⟩ := ensureOpen_cases c
    · rw [same]
    · have other : 0 ≠ c.sessions.length := by omega
      rw [made, isOpenAt_new]
      simp [other]
  cases a with
  | enter => simpa [Client.perform, enter] using kept
  | fetchText url => simpa [Client.perform, isOpenAt_fetchText] using kept
  | fetchWatchlist url => simpa [Client.perform, fetchWatchlist_client, isOpenAt_fetchText] using kept
  | close i => simp [Client.perform, isOpenAt_closeAt]
  | exit =>
    have same : c.exit.isOpenAt 0 = c.isOpenAt 0 := by
      rw [Client.exit]
      cases inUse : c.openCurrent? with
      | none => rfl
      | some i =>
        cases owns : c.owns with
        | false => simp
        | true =>
          -- A session that the client owns comes behind the one of the caller.
          obtain ⟨current, -⟩ := openCurrent?_eq_some.1 inUse
          have several : 1 < c.sessions.length := by simpa using h.owns.1 owns
          rw [h.current, if_neg (by omega)] at current
          have other : i ≠ 0 := by
            have place := Option.some.inj current
            omega
          simp [isOpenAt_closeAt, other]
    simpa [Client.perform] using same

theorem Sound.isOpenAt_supplied_performAll (h : Sound true c) (as : List Action) :
    (c.performAll as).isOpenAt 0 = (c.isOpenAt 0 && decide (.close 0 ∉ as)) := by
  induction as generalizing c with
  | nil => simp [Client.performAll]
  | cons a as ih =>
    have later := ih (h.perform a)
    rw [h.isOpenAt_supplied] at later
    rw [performAll_cons, later, Bool.and_assoc]
    congr 1
    simp [eq_comm]

theorem replies_perform (c : Client) (a : Action) :
    (c.perform a).replies = if a.isFetch then c.replies.tail else c.replies := by
  cases a with
  | enter => exact replies_ensureOpen c
  | exit =>
    rw [Client.perform, Client.exit]
    cases c.openCurrent? with
    | none => rfl
    | some i => cases c.owns <;> rfl
  | fetchText url =>
    obtain ⟨i, -, -, sent⟩ := request_client c url
    rw [Client.perform, fetchText_client, sent]
    rfl
  | fetchWatchlist url =>
    obtain ⟨i, -, -, sent⟩ := request_client c url
    rw [Client.perform, fetchWatchlist_client, fetchText_client, sent]
    rfl
  | close i => rfl

theorem replies_performAll (c : Client) (as : List Action) :
    (c.performAll as).replies = c.replies.drop (as.countP Action.isFetch) := by
  induction as generalizing c with
  | nil => rfl
  | cons a as ih =>
    rw [performAll_cons, ih, replies_perform, List.countP_cons]
    cases a.isFetch with
    | true => rw [if_pos rfl, if_pos rfl, List.drop_tail]
    | false => rfl

theorem requestedAt_fetchText (c : Client) (url : Text) : ∃ i, (c.fetchText url).client.isOpenAt i = true ∧
    (c.fetchText url).client.requestedAt i = c.requestedAt i ++ [url] ∧
    ∀ j, j ≠ i → (c.fetchText url).client.requestedAt j = c.requestedAt j := by
  obtain ⟨i, -, isOpen, sent⟩ := request_client c url
  have there : i < c.ensureOpen.sessions.length := lt_of_isOpenAt isOpen
  have kept (j : Nat) : c.ensureOpen.requestedAt j = c.requestedAt j := by
    obtain ⟨k, -, -, same⟩ | ⟨-, made⟩ := ensureOpen_cases c
    · rw [same]
    · rw [made, requestedAt, requestedAt]
      by_cases inside : j < c.sessions.length
      · rw [List.getElem?_append_left inside]
      · have outside : c.sessions[j]? = none := List.getElem?_eq_none (by omega)
        rw [List.getElem?_append_right (by omega), outside]
        cases j - c.sessions.length <;> rfl
  refine ⟨i, by rw [isOpenAt_fetchText, isOpen], ?_, ?_⟩
  · rw [← kept, fetchText_client, sent]
    simp [requestedAt, there]
  · intro j other
    rw [← kept, fetchText_client, sent]
    simp [requestedAt, Ne.symm other]

end Invariant

section Results

variable {c : Client} {reply : Reply} {later : List Reply}

theorem request_reply (h : c.replies = reply :: later) (url : Text) : (c.request url).1 = reply := by
  rw [request, replies_ensureOpen, h]

theorem settle_eq_ok {f : Fault} {t : Text} : (settle f).1 = .ok t ↔ t = [] ∧ f.isExpected = true := by
  rw [settle]
  cases f.isExpected <;> simp [eq_comm]

theorem settle_eq_error {f g : Fault} : (settle f).1 = .error g ↔ f = g ∧ f.isExpected = false := by
  rw [settle]
  cases f.isExpected <;> simp

/-- How a fetch ends for each kind of reply. -/
theorem fetchText_cases (h : c.replies = reply :: later) (url : Text) :
    (∃ reason t, reply = .response 200 reason (.ok t) ∧ (c.fetchText url).result = .ok t) ∨
    (∃ status reason body, status ≠ 200 ∧ reply = .response status reason body ∧ (c.fetchText url).result = .ok []) ∨
    ∃ f, reply.Raises f ∧ (c.fetchText url).result = (settle f).1 := by
  have next := request_reply h url
  cases reply with
  | failure f => exact .inr (.inr ⟨f, .unanswered, by simp only [fetchText, next]⟩)
  | response status reason body =>
    by_cases success : status = 200
    · subst success
      cases body with
      | ok t => exact .inl ⟨reason, t, rfl, by simp [fetchText, next]⟩
      | error f => exact .inr (.inr ⟨f, .unread reason, by simp [fetchText, next]⟩)
    · exact .inr (.inl ⟨status, reason, body, success, rfl, by simp [fetchText, next, success]⟩)

theorem fetchText_eq_ok (h : c.replies = reply :: later) (url t : Text) :
    (c.fetchText url).result = .ok t ↔ (∃ reason, reply = .response 200 reason (.ok t)) ∨ t = [] ∧ reply.IsLost := by
  obtain ⟨reason, u, rfl, result⟩ | ⟨status, reason, body, other, rfl, result⟩ | ⟨f, raised, result⟩ := fetchText_cases h url
  · rw [result]
    constructor
    · intro same
      obtain rfl := Except.ok.inj same
      exact .inl ⟨reason, rfl⟩
    · intro read
      rcases read with ⟨_, same⟩ | ⟨-, lost⟩
      · cases same
        rfl
      · cases lost with
        | status other => exact absurd rfl other
        | fault _ raised => cases raised
  · rw [result]
    constructor
    · intro same
      exact .inr ⟨(Except.ok.inj same).symm, .status other reason body⟩
    · intro read
      rcases read with ⟨_, same⟩ | ⟨rfl, -⟩
      · cases same
        exact absurd rfl other
      · rfl
  · rw [result, settle_eq_ok]
    constructor
    · intro settled
      exact .inr ⟨settled.1, .fault settled.2 raised⟩
    · intro read
      rcases read with ⟨_, rfl⟩ | ⟨blank, lost⟩
      · cases raised
      · cases lost with
        | status other =>
          cases raised
          exact absurd rfl other
        | fault expected raised' => exact ⟨blank, raised.unique raised' ▸ expected⟩

theorem fetchText_eq_error (h : c.replies = reply :: later) (url : Text) (g : Fault) :
    (c.fetchText url).result = .error g ↔ g.isExpected = false ∧ reply.Raises g := by
  obtain ⟨reason, u, rfl, result⟩ | ⟨status, reason, body, other, rfl, result⟩ | ⟨f, raised, result⟩ := fetchText_cases h url
  · rw [result]
    constructor
    · intro same
      cases same
    · intro escaped
      cases escaped.2
  · rw [result]
    constructor
    · intro same
      cases same
    · intro escaped
      cases escaped.2
      exact absurd rfl other
  · rw [result, settle_eq_error]
    constructor
    · intro settled
      obtain ⟨rfl, unexpected⟩ := settled
      exact ⟨unexpected, raised⟩
    · intro escaped
      obtain rfl := raised.unique escaped.2
      exact ⟨rfl, escaped.1⟩

end Results

theorem managed_performAll (given : Bool) (replies : List Reply) (as : List Action) :
    Managed given replies as ((start given replies).performAll as) := by
  have sound : Sound given ((start given replies).performAll as) := (sound_start given replies).performAll as
  have left (reply : Reply) (next : replies[as.countP Action.isFetch]? = some reply) :
      ∃ later, ((start given replies).performAll as).replies = reply :: later := by
    have initial : (start given replies).replies = replies := by cases given <;> rfl
    obtain ⟨inside, here⟩ := List.getElem?_eq_some_iff.1 next
    refine ⟨replies.drop (as.countP Action.isFetch + 1), ?_⟩
    rw [replies_performAll, initial, List.drop_eq_getElem_cons inside, here]
  constructor
  case lent =>
    intro lent
    subst lent
    have initial : (start true replies).isOpenAt 0 = true := rfl
    rw [(sound_start true replies).isOpenAt_supplied_performAll, initial]
    simp
  case single =>
    intro i j ownI ownJ openI openJ
    have newest := sound.eq_newest ownI openI
    rw [sound.eq_newest ownJ openJ] at newest
    exact (Option.some.inj newest).symm
  case exited =>
    intro i own
    exact sound.isOpenAt_exit own
  case requested => exact requestedAt_fetchText _
  case read =>
    intro url reply next t
    obtain ⟨later, replies⟩ := left reply next
    exact fetchText_eq_ok replies url t
  case raised =>
    intro url reply next f
    obtain ⟨later, replies⟩ := left reply next
    exact fetchText_eq_error replies url f
  case watchlist =>
    intro url
    exact ⟨fetchWatchlist_client _ url, fetchWatchlist_result _ url⟩

/-- A supplied session that is closed from outside is replaced; the one in its place is closed by the exit. -/
example :
    let c := (start true [.response 200 none (.ok ['a'])]).performAll [.close 0, .fetchText ['u'], .exit, .enter]
    c.sessions = [⟨false, []⟩, ⟨false, [['u']]⟩, ⟨true, []⟩] ∧ c.current = some 2 ∧ c.owns = true := by
  decide

end Client

end DependencyAudit.Download
