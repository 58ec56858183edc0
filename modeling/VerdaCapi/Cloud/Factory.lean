import VerdaCapi.Cloud.Client

/-!
# Credentials identities and the accounts behind them

Reference: `internal/cloud/factory.go`. Every identity stands for a Verda account of its own: the
global credentials of the manager, or those of one Secret.
-/

namespace VerdaCapi.Cloud

open Remote

/-- `cloud.Identity`. -/
structure Identity where
  ns : String
  secretName : String := ""
deriving DecidableEq

/-- The account an identity opens. -/
inductive AccountID where
  | global
  | secret (ns name : String)
deriving DecidableEq

/-- Which account `ClientFor` connects to: the global one when no Secret is named. -/
def accountOf (identity : Identity) : AccountID :=
  if identity.secretName = "" then .global else .secret identity.ns identity.secretName

/-- `ClientFor`, as a pass sees it: an error (missing credentials, an unreadable or incomplete
Secret), or a client of the identity's account. -/
def clientFor (unavailable : Identity → Option Err) (identity : Identity) : Except Err AccountID :=
  match unavailable identity with
  | some e => .error e
  | none => .ok (accountOf identity)

/-- A request to one of the accounts. -/
abbrev AccountCall := AccountID × Call

/-- A request is answered alike in every account. -/
abbrev AccountCall.Res (c : AccountCall) : Type := Call.Res c.2

/-- Run a program of the client against an account. -/
def onAccount {α : Type} (a : AccountID) (p : ClientM α) : Prog AccountCall AccountCall.Res α :=
  p.mapOp (fun c => (a, c)) fun _ x => x

end VerdaCapi.Cloud
