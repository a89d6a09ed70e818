import Mathlib.Data.List.Basic

/-! # Scenario and staged credentials

`struct scenario` carries one attestation run's credentials, working directory, partner
certificate and contract buffer. `apb_execute` copies the credentials into the globals
`g_certfile` ... `g_sign_tpm`, which the dispatcher and the pipeline read afterwards. -/

namespace Maat

/-- A byte buffer, as `char *` with an explicit length. -/
abbrev Bytes := List UInt8

/-- The fields of `struct scenario` that the layered attestation APB reads. A `none`
string is a NULL pointer. -/
structure Scenario where
  certfile : Option String
  keyfile : Option String
  keypass : Option String
  nonce : Option String
  tpmpass : Option String
  akctx : Option String
  signTpm : Bool
  workdir : Option String
  partnerCert : Option String
  contract : Option Bytes
  size : Nat
  deriving DecidableEq, Repr

/-- The globals `g_certfile`, `g_keyfile`, `g_keypass`, `g_nonce`, `g_tpmpass`, `g_akctx` and
`g_sign_tpm` once staging succeeded: none of them is NULL. -/
structure Staged where
  certfile : String
  keyfile : String
  keypass : String
  nonce : String
  tpmpass : String
  akctx : String
  signTpm : String
  deriving DecidableEq, Repr

/-- `place_info`: where a place listens. -/
structure PlaceInfo where
  addr : String
  port : String
  deriving DecidableEq, Repr

/-- `g_dom_z_info` and `g_dom_t_info`, resolved before measurement starts. -/
structure Places where
  domZ : PlaceInfo
  domT : PlaceInfo
  deriving DecidableEq, Repr

/-- `ENOENT` of `errno.h`. -/
def enoent : Int := 2

/-- `EIO` of `errno.h`. -/
def eio : Int := 5

/-- `EINVAL` of `errno.h`. -/
def einval : Int := 22

/-- `strdup` of a string that may be NULL, guarded as the code guards it: `none` when the
source is NULL or the copy could not be allocated. -/
def dupIfSet (s : Option String) (allocOk : Bool) : Option String :=
  if allocOk then s else none

@[simp] theorem dupIfSet_true (s : Option String) : dupIfSet s true = s := rfl

@[simp] theorem dupIfSet_false (s : Option String) : dupIfSet s false = none := rfl

end Maat
