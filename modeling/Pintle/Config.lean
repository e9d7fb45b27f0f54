import Pintle.Provider

/-!
# Accepting provider messages

Model of `ValidateMessage` of `internal/config/config.go`: which messages the pipeline accepts, and
the error of each one it does not; and of `TCPEntrypoints`, the ports of the named entrypoints.
-/

namespace Pintle
open Go

/-- Go `TCPEntrypoints`. -/
def tcpEntrypoints : GoMap GoString Int :=
  ((AList.singleton (lit "redis") 6379).insert (lit "postgres") 5432).insert (lit "mysql") 3306

/-- The part of Go `Config` that decides about messages. -/
structure Config where
  staticOnly : Bool

namespace Config

/-- Go `ValidateMessage`: the text of the error, or nothing. -/
def validateMessage (c : Config) (msg : Message) : Option GoString :=
  match msg.err with
  | some err => some (lit "provider " ++ msg.providerName ++ lit " update: " ++ err)
  | none =>
    if !c.staticOnly then none
    else if msg.providerName ≠ lit "file" then
      some (lit "--static-only accepts only the file provider")
    else if msg.tcpRoutes.length ≠ 0 ∨ msg.passthrough.length ≠ 0 then
      some (lit ("--static-only forbids TCP routes and SNI passthrough; " ++
        "remove tcp and passthrough entries"))
    else none

/-- Whether a message is accepted. -/
def accepts (c : Config) (msg : Message) : Bool := (c.validateMessage msg).isNone

/-- In static-only mode an accepted message is the file provider's and has no TCP or passthrough
entries. -/
lemma accepts_static {c : Config} {msg : Message} (static : c.staticOnly = true)
    (ok : c.accepts msg = true) :
    msg.err = none ∧ msg.providerName = lit "file" ∧ msg.tcpRoutes = [] ∧ msg.passthrough = [] := by
  unfold accepts validateMessage at ok
  cases err : msg.err with
  | some _ => simp [err] at ok
  | none =>
    simp only [err, static] at ok
    split at ok
    · rename_i open_mode
      simp at open_mode
    · split at ok
      · cases ok
      · split at ok
        · cases ok
        · rename_i name entries
          refine ⟨rfl, not_not.mp name, ?_, ?_⟩
          · exact List.length_eq_zero_iff.mp (not_not.mp fun some => entries (.inl some))
          · exact List.length_eq_zero_iff.mp (not_not.mp fun some => entries (.inr some))

end Config
end Pintle
