import EnumBindings.Proofs.Scope

/-!
# Histories of a scope

A scope is used by reserving and declaring in any order, and a declaration that is refused leaves
it. Over every such history an identifier belongs to the first request that claims it:

* `owner?_after` is one request, and `owner?_foldl_after` the induction over a history: the owner
  of an identifier is who named it first;
* `unclaimed_iff` says the same without a search, by what every single request of the history came
  to (`Claims`);
* `claims_are_permanent` puts together when a declaration succeeds, whom a refusal names, and that
  no later request takes an identifier away.
-/

namespace EnumBindings.Scope

/-- What may be asked of a scope. -/
inductive Request where
  | reserve (names : List String) (owner : String)
  | declare (identifier owner : String)
deriving Repr, DecidableEq

namespace Request

/-- The identifiers that a request names. -/
def names : Request → List String
  | reserve names _ => names
  | declare identifier _ => [identifier]

/-- For whom a request is made. -/
def owner : Request → String
  | reserve _ owner => owner
  | declare _ owner => owner

end Request

/-- What comes of a request: the scope behind it, or why it is refused. -/
def answer (scope : Scope) : Request → Except GenerateError Scope
  | .reserve names owner => .ok (scope.reserve names owner)
  | .declare identifier owner => scope.declare identifier owner

/-- The scope behind a request. One that is refused leaves it as it was. -/
def after (scope : Scope) (request : Request) : Scope :=
  match scope.answer request with
  | .ok next => next
  | .error _ => scope

/-- The scope behind a history that began with nothing claimed. -/
def history (language : Language) (requests : List Request) : Scope :=
  requests.foldl after (empty language)

/-- The identifiers that were declared with success, in order. -/
def declared (scope : Scope) : List Request → List String
  | [] => []
  | .reserve names owner :: rest => (scope.reserve names owner).declared rest
  | .declare identifier owner :: rest =>
    match scope.declare identifier owner with
    | .ok next => identifier :: next.declared rest
    | .error _ => scope.declared rest

/-- Whether a request to a scope claims an identifier: it reserves it, or it declares it and is
not refused. -/
def Claims (scope : Scope) (identifier : String) : Request → Prop
  | .reserve names _ => identifier ∈ names
  | .declare declared owner =>
    identifier = declared ∧ ∃ next, scope.declare declared owner = .ok next

/-- No request of a history claimed an identifier. -/
def Unclaimed (language : Language) (requests : List Request) (identifier : String) : Prop :=
  ∀ earlier request later, requests = earlier ++ request :: later →
    ¬Claims (history language earlier) identifier request

/-! ## One request -/

theorem declare_eq_error_iff (scope : Scope) (identifier owner : String) (error : GenerateError) :
    scope.declare identifier owner = .error error ↔
      ∃ first, scope.owner? identifier = some first ∧
        error = .identifierCollision scope.language identifier first owner := by
  rw [declare]
  cases scope.owner? identifier with
  | none => simp
  | some first => simp [eq_comm]

theorem exists_declare_eq_ok_iff (scope : Scope) (identifier owner : String) :
    (∃ next, scope.declare identifier owner = .ok next) ↔ scope.owner? identifier = none := by
  constructor
  · rintro ⟨next, h⟩
    exact ((declare_eq_ok_iff ..).mp h).1
  · intro h
    exact ⟨_, (declare_eq_ok_iff ..).mpr ⟨h, rfl⟩⟩

/-- A request gives the identifiers that it names to its owner, as far as they are free. -/
theorem owner?_after (scope : Scope) (request : Request) (x : String) :
    (scope.after request).owner? x =
      (scope.owner? x).or (if x ∈ request.names then some request.owner else none) := by
  cases request with
  | reserve names owner => exact scope.owner?_reserve names owner x
  | declare identifier owner =>
      have hmem : x ∈ (Request.declare identifier owner).names ↔ x = identifier :=
        List.mem_singleton
      cases hfree : scope.owner? identifier with
      | none =>
          have hok := (declare_eq_ok_iff scope _ identifier owner).mpr ⟨hfree, rfl⟩
          have hafter : scope.after (.declare identifier owner) = scope.add identifier owner := by
            rw [after, answer, hok]
          rw [hafter, owner?_add]
          simp only [hmem]
          rfl
      | some first =>
          have herror := (declare_eq_error_iff scope identifier owner _).mpr ⟨first, hfree, rfl⟩
          have hafter : scope.after (.declare identifier owner) = scope := by
            rw [after, answer, herror]
          rw [hafter]
          by_cases hx : x = identifier
          · rw [hx, hfree]
            rfl
          · rw [if_neg (mt hmem.mp hx), Option.or_none]

@[simp]
theorem language_after (scope : Scope) (request : Request) :
    (scope.after request).language = scope.language := by
  cases request with
  | reserve names owner => exact language_reserve scope names owner
  | declare identifier owner =>
      cases hdeclare : scope.declare identifier owner with
      | error e => rw [after, answer, hdeclare]
      | ok next =>
          obtain ⟨-, rfl⟩ := (declare_eq_ok_iff ..).mp hdeclare
          rw [after, answer, hdeclare]
          rfl

/-! ## Histories -/

/-- Behind some requests an identifier has the owner that it had, or the one that named it
first. -/
theorem owner?_foldl_after (scope : Scope) (requests : List Request) (x : String) :
    (requests.foldl after scope).owner? x = (scope.owner? x).or
      ((requests.find? fun request => request.names.contains x).map Request.owner) := by
  induction requests generalizing scope with
  | nil => simp
  | cons request rest ih =>
      rw [List.foldl_cons, ih, owner?_after, Option.or_assoc]
      by_cases hx : x ∈ request.names
      · rw [if_pos hx, List.find?_cons_of_pos (by simpa using hx)]
        rfl
      · rw [if_neg hx, List.find?_cons_of_neg (by simpa using hx)]
        rfl

theorem language_foldl_after (scope : Scope) (requests : List Request) :
    (requests.foldl after scope).language = scope.language := by
  induction requests generalizing scope with
  | nil => rfl
  | cons request rest ih => rw [List.foldl_cons, ih, language_after]

theorem history_append (language : Language) (requests later : List Request) :
    history language (requests ++ later) = later.foldl after (history language requests) := by
  rw [history, List.foldl_append]
  rfl

theorem owner?_history (language : Language) (requests : List Request) (x : String) :
    (history language requests).owner? x =
      (requests.find? fun request => request.names.contains x).map Request.owner := by
  rw [history, owner?_foldl_after, owner?_empty, Option.none_or]

theorem mem_names_of_claims {scope : Scope} {identifier : String} {request : Request}
    (h : Claims scope identifier request) : identifier ∈ request.names := by
  cases request with
  | reserve names owner => exact h
  | declare declared owner => exact List.mem_singleton.mpr h.1

/-- Naming an identifier that is free is enough to claim it. -/
theorem claims_of_free {scope : Scope} {identifier : String} {request : Request}
    (hfree : scope.owner? identifier = none) (hnamed : identifier ∈ request.names) :
    Claims scope identifier request := by
  cases request with
  | reserve names owner => exact hnamed
  | declare declared owner =>
      obtain rfl := List.mem_singleton.mp hnamed
      exact ⟨rfl, (exists_declare_eq_ok_iff ..).mpr hfree⟩

/-- An identifier has an owner as soon as a request claimed it. The first request that claimed it
is the first one that named it, and this is its owner. -/
theorem exists_first_claim {language : Language} {requests : List Request} {identifier first : String}
    (h : (history language requests).owner? identifier = some first) :
    ∃ earlier request later, requests = earlier ++ request :: later ∧
      Claims (history language earlier) identifier request ∧
      Unclaimed language earlier identifier ∧ request.owner = first := by
  rw [owner?_history, Option.map_eq_some_iff] at h
  obtain ⟨request, hfind, hfirst⟩ := h
  obtain ⟨hnamed, earlier, later, hsplit, hnone⟩ := List.find?_eq_some_iff_append.mp hfind
  have hunnamed : ∀ r ∈ earlier, identifier ∉ r.names := by
    intro r hr
    simpa using hnone r hr
  refine ⟨earlier, request, later, hsplit, ?_, ?_, hfirst⟩
  · refine claims_of_free ?_ (by simpa using hnamed)
    rw [owner?_history, Option.map_eq_none_iff, List.find?_eq_none]
    simpa using hunnamed
  · rintro before r behind rfl hclaims
    exact hunnamed r (List.mem_append_right _ List.mem_cons_self) (mem_names_of_claims hclaims)

theorem unclaimed_iff (language : Language) (requests : List Request) (identifier : String) :
    Unclaimed language requests identifier ↔
      (history language requests).owner? identifier = none := by
  constructor
  · intro h
    cases howner : (history language requests).owner? identifier with
    | none => rfl
    | some first =>
        obtain ⟨earlier, request, later, hsplit, hclaims, -⟩ := exists_first_claim howner
        exact absurd hclaims (h earlier request later hsplit)
  · rintro h earlier request later rfl hclaims
    rw [owner?_history, Option.map_eq_none_iff, List.find?_eq_none] at h
    exact h request (List.mem_append_right _ List.mem_cons_self)
      (by simpa using mem_names_of_claims hclaims)

/-! ## What was declared -/

/-- Only identifiers without an owner can be declared. -/
theorem owner?_of_mem_declared {scope : Scope} {requests : List Request} {x : String}
    (h : x ∈ scope.declared requests) : scope.owner? x = none := by
  induction requests generalizing scope with
  | nil => cases h
  | cons request rest ih =>
      cases request with
      | reserve names owner => exact ((owner?_reserve_eq_none_iff ..).mp (ih h)).1
      | declare identifier owner =>
          rw [declared] at h
          cases hdeclare : scope.declare identifier owner with
          | error e =>
              rw [hdeclare] at h
              exact ih h
          | ok next =>
              obtain ⟨hfree, rfl⟩ := (declare_eq_ok_iff ..).mp hdeclare
              rw [hdeclare] at h
              rcases List.mem_cons.mp h with rfl | hrest
              · exact hfree
              · exact ((owner?_add_eq_none_iff ..).mp (ih hrest)).1

/-- Nothing is declared twice. -/
theorem nodup_declared (scope : Scope) (requests : List Request) :
    (scope.declared requests).Nodup := by
  induction requests generalizing scope with
  | nil => exact List.nodup_nil
  | cons request rest ih =>
      cases request with
      | reserve names owner => exact ih _
      | declare identifier owner =>
          rw [declared]
          cases hdeclare : scope.declare identifier owner with
          | error e => exact ih scope
          | ok next =>
              obtain ⟨-, rfl⟩ := (declare_eq_ok_iff ..).mp hdeclare
              refine List.nodup_cons.mpr ⟨fun hagain => ?_, ih _⟩
              exact ((owner?_add_eq_none_iff ..).mp (owner?_of_mem_declared hagain)).2 rfl

/-- In every history a declaration is accepted if nothing before it claimed its identifier, be it
by reserving it or by a declaration that was accepted. If it is refused, then the scope stays as
it is, and the refusal names the owner of the first request that claimed the identifier and the
owner of the declaration itself. No later request changes an owner. So nothing is declared twice,
and nothing that was reserved before. -/
theorem claims_are_permanent (language : Language) (requests : List Request) :
    (∀ identifier owner,
      (∃ next, (history language requests).declare identifier owner = .ok next) ↔
        Unclaimed language requests identifier) ∧
    (∀ identifier owner error,
      (history language requests).declare identifier owner = .error error →
      history language (requests ++ [.declare identifier owner]) = history language requests ∧
      ∃ earlier request later, requests = earlier ++ request :: later ∧
        Claims (history language earlier) identifier request ∧
        Unclaimed language earlier identifier ∧
        error = .identifierCollision language identifier request.owner owner) ∧
    (∀ identifier owner later, (history language requests).owner? identifier = some owner →
      (history language (requests ++ later)).owner? identifier = some owner) ∧
    (declared (empty language) requests).Nodup ∧
    ∀ earlier identifier owner later, requests = earlier ++ .declare identifier owner :: later →
      (∃ next, (history language earlier).declare identifier owner = .ok next) →
      ∀ names reserver, .reserve names reserver ∈ earlier → identifier ∉ names := by
  refine ⟨?_, ?_, ?_, nodup_declared _ requests, ?_⟩
  · intro identifier owner
    rw [exists_declare_eq_ok_iff, unclaimed_iff]
  · intro identifier owner error hrefused
    obtain ⟨first, hfirst, rfl⟩ := (declare_eq_error_iff ..).mp hrefused
    obtain ⟨earlier, request, later, hsplit, hclaims, hunclaimed, rfl⟩ := exists_first_claim hfirst
    refine ⟨?_, earlier, request, later, hsplit, hclaims, hunclaimed, ?_⟩
    · rw [history_append, List.foldl_cons, List.foldl_nil, after, answer, hrefused]
    · rw [history, language_foldl_after]
      rfl
  · intro identifier owner later howner
    rw [history_append, owner?_foldl_after, howner, Option.some_or]
  · intro earlier identifier owner later _ haccepted names reserver hreserved hlisted
    rw [exists_declare_eq_ok_iff, ← unclaimed_iff] at haccepted
    obtain ⟨before, behind, hsplit⟩ := List.append_of_mem hreserved
    exact haccepted before _ behind hsplit hlisted

end EnumBindings.Scope
