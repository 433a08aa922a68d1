import CrossVenue.Failure
import CrossVenue.Json.Parts

/-!
# Replies of the service

A reply is a status with a body, which is JSON but for pages and redirections.  Rejections that blame
the input have status 400, others 500.  A reply is sent only if its texts are plain.

* `status_rejected` : which status a rejection has;
* `sent_eq_ok` : what is sent is sent as it is.
-/

set_option autoImplicit false

namespace CrossVenue

/-- What the service answers to a request. -/
inductive Reply
  | done (body : Json)
  | refused (issues : List Issue)
  | rejected (reason : Rejection)
  | unreadable
  | notFound
  | wrongMethod
  /-- A page for people to read. -/
  | page
  /-- The same path without closing slashes should be asked for. -/
  | redirected

namespace Reply

/-- The status of a rejection. -/
def rejectionStatus (reason : Rejection) : Nat := if reason.isDomain then 400 else 500

/-- The status of a reply. -/
def status : Reply → Nat
  | done _ => 200
  | refused _ => 422
  | rejected reason => rejectionStatus reason
  | unreadable => 400
  | notFound => 404
  | wrongMethod => 405
  | page => 200
  | redirected => 307

/-- A body that only says what is wrong. -/
def detail (text : Text) : Json := .obj [("detail", .str text)]

/-- The JSON body of a reply, if it has one. -/
def body? : Reply → Option Json
  | done v => some v
  | refused issues => some (.obj [("detail", .arr (issues.map Issue.toJson))])
  | rejected reason =>
    some (.obj [("detail", .str reason.message), ("error", .str reason.kindName)])
  | unreadable => some (detail "There was an error parsing the body")
  | notFound => some (detail "Not Found")
  | wrongMethod => some (detail "Method Not Allowed")
  | page => none
  | redirected => none

/-- The reply as it is sent; texts of what was computed or rejected have to be plain. -/
def sent : Reply → Attempt Reply
  | done v => if v.isPlain then .ok (.done v) else breakDown .unsendable
  | rejected reason => if reason.isPlain then .ok (.rejected reason) else breakDown .notPlain
  | r => .ok r

theorem sent_eq_ok {r s : Reply} (h : r.sent = .ok s) : s = r := by
  unfold sent breakDown at h
  split at h
  · split at h <;> cases h
    rfl
  · split at h <;> cases h
    rfl
  · injection h with h
    exact h.symm

theorem status_rejected (reason : Rejection) :
    (rejected reason).status = 500 ↔ ∃ program, reason.cause = .bumpExhausted program := by
  rw [← Rejection.isDomain_eq_false_iff]
  cases h : reason.isDomain <;> simp [status, rejectionStatus, h]

end Reply

/-- The reply to a request that was computed; rejections are replies, other failures are not. -/
def Attempt.reply (result : Attempt Json) : Attempt Reply :=
  match result with
  | .ok body => .ok (.done body)
  | .error (.rejected reason) => .ok (.rejected reason)
  | .error failure => .error failure

theorem reply_eq_error_iff {result : Attempt Json} {failure : Failure} :
    result.reply = .error failure ↔
      result = .error failure ∧ ∀ reason, failure ≠ .rejected reason := by
  unfold Attempt.reply
  split
  · simp
  · rename_i reason
    constructor
    · intro h
      cases h
    · rintro ⟨h, hn⟩
      injection h with h
      exact absurd h.symm (hn reason)
  · rename_i f hf
    constructor
    · intro h
      injection h with h
      subst h
      exact ⟨rfl, hf⟩
    · rintro ⟨h, _⟩
      injection h with h
      rw [h]

end CrossVenue
