import TenantApi.Platform.Stock
import TenantApi.Proofs.PathSegment
import TenantApi.Proofs.SessionRun
import TenantApi.Proofs.TenantBase

/-!
An identifier stays within its segment. Every operation about one thing sends a request whose path
is that of the API, the fixed segments, and the identifier as one segment, unless the identifier is
one of the two dot segments: those need no escape, and are removed with what they stand for.
-/

namespace TenantApi

open Url (Escaped Quoted isUnreserved escape pathOf undot isDot)
open Fallible (bind_ok map_ok)

namespace Place

variable {place : Place} {identifier path : String}

def places : List Place :=
  [job, jobErrors, organization, organizationMembers, clientGrant, resourceServer, encryptionKey]

def template (place : Place) (segment : List Char) : List (List Char) :=
  place.before.map String.toList ++ segment :: place.after.map String.toList

theorem template_length (segment : List Char) :
    (place.template segment).length = place.before.length + place.after.length + 1 := by
  simp only [template, List.length_append, List.length_cons, List.length_map]
  omega

theorem ofSegments_text (segments : List String) :
    (ofSegments segments).toList = '/' :: pathOf (segments.map String.toList) := by
  have text : ("/".intercalate segments).toList = pathOf (segments.map String.toList) := by
    induction segments with
    | nil => rfl
    | cons segment rest ih =>
        cases rest with
        | nil => simp [pathOf, Text.join]
        | cons next others =>
            rw [String.intercalate_cons_cons, List.map_cons, Url.pathOf_cons _ (by simp), ← ih]
            simp
  simp [ofSegments, text]

theorem path_text (made : place.path identifier = .ok path) :
    path.toList = '/' :: pathOf (place.template (escape isUnreserved identifier.toList)) := by
  obtain ⟨segment, spelled, rfl⟩ := map_ok.mp made
  have same := (Argument.pathSegment_ok_iff.mp spelled).2
  rw [ofSegments_text]
  simp [template, same]

def isFixed (segment : String) : Bool :=
  segment.toList ≠ [] && segment.toList.all isUnreserved && !isDot segment.toList

theorem fixed_segments (known : place ∈ places) :
    place.before ≠ [] ∧ (place.before ++ place.after).all isFixed = true := by
  have every : places.all fun place =>
      decide (place.before ≠ []) && (place.before ++ place.after).all isFixed := by decide +kernel
  simpa using List.all_eq_true.mp every place known

theorem template_undotted (known : place ∈ places) {segment : List Char}
    (undotted : isDot segment = false) :
    ∀ piece ∈ place.template segment, isDot piece = false := by
  have fixed := List.all_eq_true.mp (fixed_segments known).2
  have named (name : String) (listed : name ∈ place.before ++ place.after) :
      isDot name.toList = false := by
    have whole := fixed name listed
    simp only [isFixed, Bool.and_eq_true, Bool.not_eq_true'] at whole
    exact whole.2
  simp only [template, List.mem_append, List.mem_cons, List.mem_map]
  rintro piece (⟨name, listed, rfl⟩ | rfl | ⟨name, listed, rfl⟩)
  · exact named name (List.mem_append_left _ listed)
  · exact undotted
  · exact named name (List.mem_append_right _ listed)

theorem template_escaped (known : place ∈ places) {segment : List Char}
    (quoted : Quoted isUnreserved segment) : Escaped (place.template segment) := by
  have fixed := List.all_eq_true.mp (fixed_segments known).2
  have named (name : String) (listed : name ∈ place.before ++ place.after) :
      Quoted isUnreserved name.toList := by
    have whole := fixed name listed
    simp only [isFixed, Bool.and_eq_true] at whole
    apply Url.quoted_of_plain
    intro c member
    have unreserved := List.all_eq_true.mp whole.1.2 c member
    exact ⟨unreserved, Url.unreserved_ne (by decide) unreserved⟩
  intro piece member
  simp only [template, List.mem_append, List.mem_cons, List.mem_map] at member
  rcases member with ⟨name, listed, rfl⟩ | rfl | ⟨name, listed, rfl⟩
  · exact named name (List.mem_append_left _ listed)
  · exact quoted
  · exact named name (List.mem_append_right _ listed)

theorem template_head (known : place ∈ places) (segment : List Char) :
    ∃ first others, place.template segment = first :: others ∧ first ≠ [] := by
  obtain ⟨some, fixed⟩ := fixed_segments known
  obtain ⟨name, names, before⟩ := List.exists_cons_of_ne_nil some
  have whole := List.all_eq_true.mp fixed name (by simp [before])
  simp only [isFixed, Bool.and_eq_true, decide_eq_true_eq] at whole
  exact ⟨name.toList, names.map String.toList ++ segment :: place.after.map String.toList,
    by simp [template, before], whole.1.1⟩

def root : List (List Char) := [[], "api".toList, "v2".toList]

theorem root_clean : Escaped root ∧ ∀ piece ∈ root, isDot piece = false := by
  have fixed : root.all (fun piece => piece.all isUnreserved && !isDot piece) = true := by decide
  simp only [List.all_eq_true, Bool.and_eq_true, Bool.not_eq_true'] at fixed
  refine ⟨fun piece member => Url.quoted_of_plain fun c inside => ?_, fun piece member =>
    (fixed piece member).2⟩
  have unreserved := (fixed piece member).1 c inside
  exact ⟨unreserved, Url.unreserved_ne (by decide) unreserved⟩

/-- A path that says an identifier in one segment, where the place has it, and is otherwise that of
the place. -/
def Contained (place : Place) (identifier : String) (path : List Char) : Prop :=
  ∃ segment, Text.splitAt '/' path = root ++ place.template segment ∧
    Url.decode? segment = some identifier.toList

theorem escape_isDot : isDot (escape isUnreserved identifier.toList) = true ↔
    identifier = "." ∨ identifier = ".." := by
  have single : escape isUnreserved ".".toList = ['.'] := by decide
  have double : escape isUnreserved "..".toList = ['.', '.'] := by decide
  simp only [isDot, Bool.or_eq_true, decide_eq_true_eq]
  rw [← double, ← single]
  constructor
  · rintro (same | same)
    · exact .inl (String.toList_inj.mp (Url.escape_injective (by decide) same))
    · exact .inr (String.toList_inj.mp (Url.escape_injective (by decide) same))
  · rintro (rfl | rfl)
    · exact .inl rfl
    · exact .inr rfl

theorem contained_iff (known : place ∈ places) :
    place.Contained identifier
        (pathOf (undot (root ++ place.template (escape isUnreserved identifier.toList)))) ↔
      identifier ≠ "." ∧ identifier ≠ ".." := by
  rw [← not_or, ← escape_isDot, Bool.not_eq_true]
  have mark : isUnreserved '%' = false := by decide
  have quoted := Url.escape_quoted mark identifier.toList
  have escaped : Escaped (root ++ place.template (escape isUnreserved identifier.toList)) := by
    intro piece member
    rcases List.mem_append.mp member with inside | inside
    · exact root_clean.1 piece inside
    · exact template_escaped known quoted piece inside
  constructor
  · rintro ⟨segment, split, _⟩
    by_contra dotted
    rw [Bool.not_eq_false] at dotted
    have member : escape isUnreserved identifier.toList ∈
        root ++ place.template (escape isUnreserved identifier.toList) := by
      simp [template]
    have shorter := Url.undot_shorter member dotted
    have lengths := congrArg List.length split
    have base : root.length = 3 := rfl
    rw [Url.splitAt_pathOf_length (Url.undot_escaped escaped)] at lengths
    rw [List.length_append, template_length] at shorter lengths
    omega
  · intro undotted
    have clean : ∀ piece ∈ root ++ place.template (escape isUnreserved identifier.toList),
        isDot piece = false := by
      intro piece member
      rcases List.mem_append.mp member with inside | inside
      · exact root_clean.2 piece inside
      · exact template_undotted known undotted piece inside
    refine ⟨escape isUnreserved identifier.toList, ?_, Url.decode_escape mark _⟩
    rw [Url.undot_clean clean]
    exact Url.splitAt_pathOf (by simp [root]) escaped

end Place

namespace Request

variable {root pieces : List (List Char)} {base url : Url} {path : String}

theorem target_rooted (rooted : base.Rooted root) : base.target = pathOf root ++ ['/'] := by
  simp only [Url.target, rooted.noQuery, rooted.path, List.append_nil]
  simp

theorem address_segments [Platform] (rooted : base.Rooted root) (below : root ≠ [])
    (clean : Escaped root) {first : List Char} {others : List (List Char)}
    (shape : pieces = first :: others) (some : first ≠ []) (escaped : Escaped pieces)
    (text : path.toList = '/' :: pathOf pieces) (made : address base path = .ok url) :
    url.path = pathOf (undot (root ++ pieces)) := by
  have nonempty : pieces ≠ [] := by simp [shape]
  obtain ⟨c, rest, front, single⟩ : ∃ c rest, pathOf pieces = c :: rest ∧ c ≠ '/' := by
    have free := Url.slashless escaped first (by simp [shape])
    rw [shape]
    exact Url.pathOf_head some free
  have slashed : '/' :: pathOf pieces = pathOf ([] :: pieces) := (Url.pathOf_cons [] nonempty).symm
  have escapedAll : Escaped ([] :: pieces) := by
    intro piece member
    rcases List.mem_cons.mp member with rfl | inside
    · exact .nil
    · exact escaped piece inside
  simp only [address, bind_ok] at made
  obtain ⟨relative, read, resolved⟩ := made
  have parts := Url.parse_ok read
  have noQuery : '?' ∉ '/' :: c :: rest := by
    rw [← front, slashed]
    exact Url.pathOf_free escapedAll (by decide) (by decide) (by decide)
  have noFragment : '#' ∉ '/' :: c :: rest := by
    rw [← front, slashed]
    exact Url.pathOf_free escapedAll (by decide) (by decide) (by decide)
  rw [text, front, Url.split_relative single noQuery noFragment] at parts
  have same := Url.ofParts_relative parts
  rw [← front, slashed, Url.requote_quoted (Url.pathOf_quoted escapedAll)] at same
  subst same
  have target : base.target ++ (pathOf ([] :: pieces)).dropWhile (· = '/') =
      pathOf (root ++ pieces) := by
    rw [target_rooted rooted, Url.pathOf_append below nonempty, ← slashed, front]
    simp [single]
  simp only [Url.resolve, Url.isAbsolute, List.isEmpty_nil, Bool.not_true, Bool.false_and,
    Bool.false_eq_true, ↓reduceIte] at resolved
  have relativeTarget : Url.target ⟨[], [], [], none, pathOf ([] :: pieces), none, none⟩ =
      pathOf ([] :: pieces) := by
    simp [Url.target, ← slashed]
  rw [relativeTarget, target] at resolved
  have all : Escaped (root ++ pieces) := by
    intro piece member
    rcases List.mem_append.mp member with inside | inside
    · exact clean piece inside
    · exact escaped piece inside
  exact Url.withTarget_segments rooted.absolute (by simp [nonempty]) all resolved

end Request

namespace Operation

variable {operation : Operation} {place : Place} {identifier : String}

/-- What an operation is about: a place, and the identifier of the one thing there. -/
def subject? : Operation → Option (Place × String)
  | .getJob id => some (.job, id)
  | .getJobErrors id => some (.jobErrors, id)
  | .getOrganization id | .updateOrganization id _ => some (.organization, id)
  | .addMembers id _ | .deleteMembers id _ => some (.organizationMembers, id)
  | .updateClientGrant id _ | .deleteClientGrant id => some (.clientGrant, id)
  | .getResourceServer id | .updateResourceServer id _ => some (.resourceServer, id)
  | .getEncryptionKey id | .deleteEncryptionKey id => some (.encryptionKey, id)
  | .request _ | .requestText _ | .importUsers .. | .exportUsers _ | .sendVerificationEmail _
  | .createClientGrant _ | .startPasswordlessEmail .. | .startPasswordlessSms .. => none

def submission? : Operation → Option Resource.Submission
  | .exportUsers submission | .sendVerificationEmail submission | .createClientGrant submission
  | .updateOrganization _ submission | .addMembers _ submission | .deleteMembers _ submission
  | .updateClientGrant _ submission | .updateResourceServer _ submission
  | .startPasswordlessEmail submission _ | .startPasswordlessSms submission _ => some submission
  | .request _ | .requestText _ | .getJob _ | .getJobErrors _ | .importUsers .. | .getOrganization _
  | .deleteClientGrant _ | .getResourceServer _ | .getEncryptionKey _ | .deleteEncryptionKey _ =>
      none

def payload (operation : Operation) : Except Argument.Fault Json :=
  match operation.submission? with
  | some submission => payloadOf submission
  | none => .ok .null

theorem callAt_eq (method : String) (place : Place) (identifier : String) :
    callAt method place identifier = (place.path identifier).bind fun path =>
      (Except.ok .null).map (plainCall method path) := by
  rw [callAt]
  cases place.path identifier <;> rfl

theorem submitAt_eq (method : String) (place : Place) (identifier : String)
    (submission : Resource.Submission) :
    submitAt method place identifier submission = (place.path identifier).bind fun path =>
      (payloadOf submission).map (plainCall method path) := by
  rw [submitAt]
  cases place.path identifier with
  | error fault => rfl
  | ok path => cases payloadOf submission <;> rfl

-- The identifier is looked at first, the data after it.
theorem subject_call (about : operation.subject? = some (place, identifier)) :
    place ∈ Place.places ∧ ∃ method, operation.call =
      (place.path identifier).bind fun path => operation.payload.map (plainCall method path) := by
  cases operation <;> simp only [subject?, Option.some.injEq, Prod.mk.injEq, reduceCtorEq] at about
  all_goals
    obtain ⟨rfl, rfl⟩ := about
    refine ⟨by decide, ?_⟩
    first
    | exact ⟨_, callAt_eq _ _ _⟩
    | exact ⟨_, submitAt_eq _ _ _ _⟩

end Operation

namespace Session

section Calls
variable [Platform] {settings : Settings} {runtimeVersion : String} {domain token : Option String}
  {timeout : Option Number} {session : Session} {operation : Operation} {place : Place}
  {identifier : String} {exchange : Exchange} {elapsed : Float} {sent : Sent}

theorem management_rooted (plain : Tenant.IsPlain (Settings.orSetting domain settings.domain))
    (built : management settings runtimeVersion domain token timeout = .ok session) :
    session.connection.base.Rooted Place.root := by
  obtain ⟨base, _, located, made⟩ := management_made built
  exact Connection.management_rooted plain located made

theorem perform_path (rooted : session.connection.base.Rooted Place.root)
    (about : operation.subject? = some (place, identifier))
    (member : sent ∈ (session.perform operation exchange elapsed).sent) :
    sent.request.url.path =
      pathOf (undot (Place.root ++ place.template (escape isUnreserved identifier.toList))) := by
  obtain ⟨known, method, called⟩ := Operation.subject_call about
  obtain ⟨call, request, made, prepared, same⟩ := perform_sent member
  rw [called] at made
  obtain ⟨path, located, made⟩ := bind_ok.mp made
  obtain ⟨json, _, rfl⟩ := map_ok.mp made
  have address := Request.ofCall_url rfl prepared
  have mark : isUnreserved '%' = false := by decide
  obtain ⟨first, others, shape, some⟩ :=
    Place.template_head known (escape isUnreserved identifier.toList)
  have escaped := Place.template_escaped known (Url.escape_quoted mark identifier.toList)
  rw [same, Request.withCredentials_url]
  exact Request.address_segments rooted (by simp [Place.root]) Place.root_clean.1 shape some escaped
    (Place.path_text located) address

-- The two dot segments are the only identifiers that get out of their segment.
theorem path_contained (plain : Tenant.IsPlain (Settings.orSetting domain settings.domain))
    (built : management settings runtimeVersion domain token timeout = .ok session)
    (history : List Action) (about : operation.subject? = some (place, identifier))
    (member : sent ∈ ((session.after settings history).perform operation exchange elapsed).sent) :
    place.Contained identifier sent.request.url.path ↔ identifier ≠ "." ∧ identifier ≠ ".." := by
  have rooted : (session.after settings history).connection.base.Rooted Place.root := by
    rw [after_base]
    exact management_rooted plain built
  rw [perform_path rooted about member]
  exact Place.contained_iff (Operation.subject_call about).1

end Calls

section Example

open scoped TenantApi.Stock

variable {operation : Operation}

def exampleSession : Except Failure Session :=
  management .standard "3.11.0" (some "tenant.auth0.com") (some "token") none

def examplePaths (operation : Operation) : List (List Char) :=
  match exampleSession with
  | .error _ => []
  | .ok session =>
      (session.perform operation (.broken "ConnectError" "") 0).sent.map (·.request.url.path)

theorem example_sent {path : List Char} (listed : path ∈ examplePaths operation) :
    ∃ session sent, exampleSession = .ok session ∧
      sent ∈ (session.perform operation (.broken "ConnectError" "") 0).sent ∧
      sent.request.url.path = path := by
  simp only [examplePaths] at listed
  split at listed
  case h_1 => contradiction
  case h_2 session built =>
    obtain ⟨sent, member, same⟩ := List.mem_map.mp listed
    exact ⟨session, sent, built, member, same⟩

theorem path_contained_slash :
    ∃ session sent, exampleSession = .ok session ∧
      sent ∈ ((session.after .standard []).perform (.deleteClientGrant "a/b")
        (.broken "ConnectError" "") 0).sent ∧
      (Place.clientGrant.Contained "a/b" sent.request.url.path ↔ "a/b" ≠ "." ∧ "a/b" ≠ "..") := by
  have listed : "/api/v2/client-grants/a%2Fb".toList ∈ examplePaths (.deleteClientGrant "a/b") := by
    decide +kernel
  obtain ⟨session, sent, built, member, _⟩ := example_sent listed
  have host :
      Tenant.hostOf (Settings.orSetting (some "tenant.auth0.com") Settings.standard.domain) =
        "tenant.auth0.com".toList := by decide +kernel
  have plain : Tenant.IsPlain
      (Settings.orSetting (some "tenant.auth0.com") Settings.standard.domain) := by
    rw [Tenant.IsPlain, host]
    simp
  have contained := path_contained plain built [] rfl member
  exact ⟨session, sent, built, member, contained⟩

-- Deleting the grant with this identifier asks to delete the whole API.
theorem dot_segments_uncontained :
    ∃ session sent, exampleSession = .ok session ∧
      sent ∈ (session.perform (.deleteClientGrant "..") (.broken "ConnectError" "") 0).sent ∧
      sent.request.url.path = "/api/v2".toList ∧
      ¬Place.clientGrant.Contained ".." sent.request.url.path := by
  have listed : "/api/v2".toList ∈ examplePaths (.deleteClientGrant "..") := by decide +kernel
  obtain ⟨session, sent, built, member, same⟩ := example_sent listed
  refine ⟨session, sent, built, member, same, ?_⟩
  rintro ⟨segment, split, _⟩
  have short : Text.splitAt '/' "/api/v2".toList = Place.root := by decide
  have lengths := congrArg List.length split
  rw [same, short, List.length_append, Place.template_length] at lengths
  omega

end Example

end Session

end TenantApi
