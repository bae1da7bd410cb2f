import DependencyAudit.Log
import DependencyAudit.Watchlist.Basic

namespace DependencyAudit.Download

/-- What can go wrong in a transfer; the last two kinds are no failures of the transfer itself. -/
inductive Trouble where
  | client
  | connection
  | payload
  | timeout
  | value
  | system
deriving DecidableEq

structure Fault where
  trouble : Trouble
  text : Text
deriving DecidableEq

/-- A fault that a fetch reports and survives. -/
def Fault.isExpected (f : Fault) : Bool :=
  match f.trouble with
  | .client | .connection | .payload | .timeout => true
  | .value | .system => false

/-- What the server side does with one request. -/
inductive Reply where
  | response (status : Int) (reason : Option Text) (body : Except Fault Text)
  | failure (f : Fault)

/-- A connection pool with the addresses requested over it so far. -/
structure Session where
  isOpen : Bool
  requested : List Text
deriving DecidableEq

/-- A client with all sessions there have been, the one in use, and the replies still to come. -/
structure Client where
  sessions : List Session
  current : Option Nat
  owns : Bool
  replies : List Reply

/-- An answer with the client after it and what was logged. -/
structure Fetch (α : Type) where
  result : Except Fault α
  client : Client
  log : List Log.Entry

namespace Client

/-- A client of its own, or one over a session that the caller supplies and keeps. -/
def start (supplied : Bool) (replies : List Reply) : Client :=
  if supplied then ⟨[⟨true, []⟩], some 0, false, replies⟩ else ⟨[], none, true, replies⟩

/-- The session in use if it is open. -/
def openCurrent? (c : Client) : Option Nat :=
  c.current.filter fun i => c.sessions[i]?.any (·.isOpen)

/-- Keeps an open session in use, or makes one that the client owns. -/
def ensureOpen (c : Client) : Client :=
  match c.openCurrent? with
  | some _ => c
  | none => { c with sessions := c.sessions ++ [⟨true, []⟩], current := some c.sessions.length, owns := true }

def enter (c : Client) : Client := c.ensureOpen

def closeAt (c : Client) (i : Nat) : Client :=
  { c with sessions := c.sessions.modify i fun s => { s with isOpen := false } }

/-- Closes the session in use if the client owns it. -/
def exit (c : Client) : Client :=
  match c.openCurrent? with
  | some i => if c.owns then c.closeAt i else c
  | none => c

/-- The newest session is closed from outside. -/
def closeNewest (c : Client) : Client := c.closeAt (c.sessions.length - 1)

/-- One request over an open session, and the reply to it. -/
def request (c : Client) (url : Text) : Reply × Client :=
  let c := c.ensureOpen
  let i := c.current.getD 0
  let sent := { c with sessions := c.sessions.modify i fun s => { s with requested := s.requested ++ [url] } }
  match c.replies with
  | [] => (.failure ⟨.connection, []⟩, sent)
  | r :: rs => (r, { sent with replies := rs })

def logger : String := "CompromisedListClient"

def failed (what : List Text) : Log.Entry :=
  Log.entry logger .error ("Failed to fetch compromised packages: ".toList :: what)

/-- A fault in a fetch: an expected one is logged and gives no text, any other goes through. -/
def settle (f : Fault) : Except Fault Text × List Log.Entry :=
  if f.isExpected then (.ok [], [failed [f.text]]) else (.error f, [])

/-- The text at an address; empty unless the status is 200 and the body can be read. -/
def fetchText (c : Client) (url : Text) : Fetch Text :=
  let (reply, c) := c.request url
  let (result, log) :=
    match reply with
    | .failure f => settle f
    | .response status reason body =>
      if status = 200 then
        match body with
        | .ok text => (.ok text, [])
        | .error f => settle f
      else (.ok [], [failed [Text.signed status, " ".toList, reason.getD "None".toList]])
  ⟨result, c, log⟩

/-- The watchlist at an address; one without entries if nothing could be fetched. -/
def fetchWatchlist (c : Client) (url : Text) : Fetch Watchlist :=
  let f := c.fetchText url
  match f.result with
  | .error e => ⟨.error e, f.client, f.log⟩
  | .ok text =>
    let empty := if text = [] then
        [Log.entry logger .warning ["No compromised entries retrieved from ".toList, url]]
      else []
    ⟨.ok (Watchlist.parse text), f.client, f.log ++ empty⟩

end Client

/-- Fetches a watchlist over a session made for it and closed after it, and the replies left. -/
def fetchOnce (replies : List Reply) (url : Text) : Fetch Watchlist :=
  let f := (Client.start false replies).enter.fetchWatchlist url
  { f with client := f.client.exit }

end DependencyAudit.Download
