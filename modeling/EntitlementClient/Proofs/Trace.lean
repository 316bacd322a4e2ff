/-
Traces as programs: the result of what is done in sequence is the sequence of the results, and its
events, requests, messages and lines in the log are those of the first part followed by those of the
second, if the first succeeds.
-/
import EntitlementClient.Proofs.Result
import EntitlementClient.Trace

namespace EntitlementClient.Traced

open EntitlementClient.Http

variable {α β γ : Type}

/-! ## Results -/

@[simp] theorem result_pure (a : α) : (pure a : Traced α).result = .ok a := rfl

@[simp] theorem result_ofExcept (r : Except ClientError α) : (ofExcept r).result = r := rfl

@[simp] theorem result_fail (e : ClientError) : (fail e : Traced α).result = .error e := rfl

@[simp] theorem result_emit (event : Event) : (emit event).result = .ok () := rfl

@[simp] theorem result_log (line : LogLine) : (log line).result = .ok () := rfl

/-- The second part runs on the result of the first. -/
@[simp] theorem result_bind (x : Traced α) (f : α → Traced β) :
    (x >>= f).result = x.result.bind fun a => (f a).result := by
  show (Traced.bind x f).result = _
  unfold Traced.bind
  rcases hx : x.result with e | a <;> rfl

/-- A sequence succeeds only if both its parts do. -/
theorem bind_ok {x : Traced α} {f : α → Traced β} {b : β} (h : (x >>= f).result = .ok b) :
    ∃ a, x.result = .ok a ∧ (f a).result = .ok b := by
  rw [result_bind] at h
  exact exists_of_bind_eq_ok h

/-! ## Events -/

/-- What the second part adds to a list, which is nothing if there is no result for it to run on. -/
def ifOk (f : α → List γ) : Except ClientError α → List γ
  | .ok a => f a
  | .error _ => []

@[simp] theorem ifOk_ok (f : α → List γ) (a : α) : ifOk f (.ok a) = f a := rfl

@[simp] theorem ifOk_error (f : α → List γ) (e : ClientError) : ifOk f (.error e) = [] := rfl

/-- A second part that adds nothing adds nothing. -/
@[simp] theorem ifOk_nil (r : Except ClientError α) : ifOk (fun _ => ([] : List γ)) r = [] := by
  rcases r with e | a <;> rfl

theorem events_bind (x : Traced α) (f : α → Traced β) :
    (x >>= f).events = x.events ++ ifOk (fun a => (f a).events) x.result := by
  show (Traced.bind x f).events = _
  unfold Traced.bind
  rcases hx : x.result with e | a
  · simp
  · rfl

/-! ## Requests and messages -/

@[simp] theorem requests_pure (a : α) : (pure a : Traced α).requests = [] := rfl

@[simp] theorem requests_ofExcept (r : Except ClientError α) : (ofExcept r).requests = [] := rfl

@[simp] theorem requests_fail (e : ClientError) : (fail e : Traced α).requests = [] := rfl

@[simp] theorem requests_log (line : LogLine) : (log line).requests = [] := rfl

@[simp] theorem requests_emit_requested (request : Request) : (emit (.requested request)).requests = [request] := rfl

@[simp] theorem requests_emit_delivered (message : Message) : (emit (.delivered message)).requests = [] := rfl

@[simp] theorem requests_bind (x : Traced α) (f : α → Traced β) :
    (x >>= f).requests = x.requests ++ ifOk (fun a => (f a).requests) x.result := by
  unfold requests
  rw [events_bind, List.filterMap_append]
  rcases hx : x.result with e | a <;> rfl

@[simp] theorem messages_pure (a : α) : (pure a : Traced α).messages = [] := rfl

@[simp] theorem messages_ofExcept (r : Except ClientError α) : (ofExcept r).messages = [] := rfl

@[simp] theorem messages_fail (e : ClientError) : (fail e : Traced α).messages = [] := rfl

@[simp] theorem messages_log (line : LogLine) : (log line).messages = [] := rfl

@[simp] theorem messages_emit_requested (request : Request) : (emit (.requested request)).messages = [] := rfl

@[simp] theorem messages_emit_delivered (message : Message) : (emit (.delivered message)).messages = [message] := rfl

@[simp] theorem messages_bind (x : Traced α) (f : α → Traced β) :
    (x >>= f).messages = x.messages ++ ifOk (fun a => (f a).messages) x.result := by
  unfold messages
  rw [events_bind, List.filterMap_append]
  rcases hx : x.result with e | a <;> rfl

/-! ## Lines in the log -/

@[simp] theorem logLines_pure (a : α) : (pure a : Traced α).logLines = [] := rfl

@[simp] theorem logLines_ofExcept (r : Except ClientError α) : (ofExcept r).logLines = [] := rfl

@[simp] theorem logLines_fail (e : ClientError) : (fail e : Traced α).logLines = [] := rfl

@[simp] theorem logLines_log (line : LogLine) : (log line).logLines = [line] := rfl

@[simp] theorem logLines_emit_requested (request : Request) : (emit (.requested request)).logLines = [] := rfl

@[simp] theorem logLines_emit_delivered (message : Message) : (emit (.delivered message)).logLines = [] := rfl

@[simp] theorem logLines_bind (x : Traced α) (f : α → Traced β) :
    (x >>= f).logLines = x.logLines ++ ifOk (fun a => (f a).logLines) x.result := by
  unfold logLines
  rw [events_bind, List.filterMap_append]
  rcases hx : x.result with e | a <;> rfl

/-! ## Results of two runs -/

/-- Two results agree if they are the same error, or values that are related. -/
inductive Agree (R : α → β → Prop) : Except ClientError α → Except ClientError β → Prop
  | ok {a : α} {b : β} (h : R a b) : Agree R (.ok a) (.ok b)
  | error (e : ClientError) : Agree R (.error e) (.error e)

theorem Agree.map_eq {R : α → β → Prop} {x : Except ClientError α} {y : Except ClientError β} (h : Agree R x y)
    {f : α → γ} {g : β → γ} (hfg : ∀ a b, R a b → f a = g b) : x.map f = y.map g := by
  cases h with
  | ok h => exact congrArg Except.ok (hfg _ _ h)
  | error e => rfl

theorem Agree.of_eq {R : α → α → Prop} (hR : ∀ a, R a a) {x y : Except ClientError α} (h : x = y) : Agree R x y := by
  subst h
  rcases x with e | a
  · exact .error e
  · exact .ok (hR a)

theorem Agree.ifOk_eq {R : α → β → Prop} {x : Except ClientError α} {y : Except ClientError β} (h : Agree R x y)
    {f : α → List γ} {g : β → List γ} (hfg : ∀ a b, R a b → f a = g b) : ifOk f x = ifOk g y := by
  cases h with
  | ok h => exact hfg _ _ h
  | error e => rfl

theorem Agree.bind {γ' : Type} {R : α → β → Prop} {S : γ → γ' → Prop} {x : Except ClientError α}
    {y : Except ClientError β} (h : Agree R x y) {f : α → Except ClientError γ} {g : β → Except ClientError γ'}
    (hfg : ∀ a b, R a b → Agree S (f a) (g b)) : Agree S (x.bind f) (y.bind g) := by
  cases h with
  | ok h => exact hfg _ _ h
  | error e => exact .error e

end EntitlementClient.Traced
