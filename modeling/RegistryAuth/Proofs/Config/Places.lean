import Mathlib.Data.List.Nodup
import RegistryAuth.Config.Load

/-!
# The places of a configuration

What a configuration may hold is a list of places (`Schema.places`): a path of names, and the kind
of value that has to be there, if there is one.  A place is met if what is found there is of its
kind, and the places that are not met are listed in their order (`Schema.offending`).

## Why nothing is found below what is not met

A place below another is only found where the other holds a mapping
(`Schema.exists_members_of_at?`).  Whatever is not accepted for a section is no mapping, and below
a text or a flag there is no place.  So places that are not met are never below one another, though
the list of places does not say so (`Schema.path_eq_of_offending`).

## Why documents are compared by known paths

A member that is no place may be added, changed or left out anywhere: between the others, inside
the sections, below a place that is no section.  `Json.SameBut` follows the known paths in two
documents side by side, and asks nothing of all other members.
-/

namespace RegistryAuth

/-- The value to which names lead, from the outermost section on. -/
def Json.at? : List String → Json → Option Json
  | [], v => some v
  | name :: path, v => (v.get? name).bind (at? path)

/-- What is read of a document: nothing of one that says nothing. -/
def Json.said (v : Json) : Json := if v.isTruthy then v else .obj []

/-- Two documents are the same, but for members with unknown paths. -/
inductive Json.SameBut : (List String → Prop) → Json → Json → Prop
  | same {known : List String → Prop} (v : Json) : SameBut known v v
  | members {known : List String → Prop} {members members' : List (CodeText × Json)}
      (missing : ∀ name, known [name] →
        (members.lookup (.whole name) = none ↔ members'.lookup (.whole name) = none))
      (found : ∀ name v v', known [name] → members.lookup (.whole name) = some v →
        members'.lookup (.whole name) = some v' → SameBut (fun path => known (name :: path)) v v') :
      SameBut known (.obj members) (.obj members')

/-- Under a known name both hold nothing, or both hold the same. -/
theorem Json.SameBut.get? {known : List String → Prop} {v v' : Json} (h : v.SameBut known v')
    {name : String} (hname : known [name]) :
    Option.Rel (SameBut fun path => known (name :: path)) (v.get? name) (v'.get? name) := by
  cases h with
  | same =>
    cases v.get? name with
    | none => exact .none
    | some x => exact .some (.same x)
  | @members _ ms ms' missing found =>
    change Option.Rel _ (ms.lookup (.whole name)) (ms'.lookup (.whole name))
    cases hx : ms.lookup (.whole name) with
    | none =>
      rw [(missing name hname).mp hx]
      exact .none
    | some x =>
      cases hx' : ms'.lookup (.whole name) with
      | none =>
        rw [(missing name hname).mpr hx'] at hx
        cases hx
      | some x' => exact .some (found name x x' hname hx hx')

/-- A member with an unknown path may be set. -/
theorem Json.SameBut.of_insert {known : List String → Prop} {key : String} (hkey : ¬known [key])
    (value : Json) (members : List (CodeText × Json)) :
    SameBut known (.obj members) (.obj (insert (.whole key) value members)) := by
  have hlookup {name : String} (hname : known [name]) :
      (insert (.whole key) value members).lookup (.whole name) = members.lookup (.whole name) :=
    lookup_insert_of_ne (by rintro ⟨rfl⟩; exact hkey hname) value members
  refine .members (fun name hname => by rw [hlookup hname]) fun name v v' hname hv hv' => ?_
  rw [hlookup hname, hv] at hv'
  exact Option.some.inj hv' ▸ .same v

/-- So may one inside a section. -/
theorem Json.SameBut.of_inside {known : List String → Prop} {key : String} {v v' : Json}
    {members : List (CodeText × Json)} (hfound : members.lookup (.whole key) = some v)
    (h : v.SameBut (fun path => known (key :: path)) v') :
    SameBut known (.obj members) (.obj (insert (.whole key) v' members)) := by
  refine .members (fun name _ => ?_) fun name x x' _ hx hx' => ?_
  · by_cases hname : name = key
    · rw [hname, hfound, lookup_insert_self]
      exact iff_of_false nofun nofun
    · rw [lookup_insert_of_ne (hname ∘ CodeText.whole.inj)]
  · by_cases hname : name = key
    · subst hname
      rw [hfound] at hx
      rw [lookup_insert_self] at hx'
      obtain rfl := Option.some.inj hx
      obtain rfl := Option.some.inj hx'
      exact h
    · rw [lookup_insert_of_ne (hname ∘ CodeText.whole.inj), hx] at hx'
      exact Option.some.inj hx' ▸ .same x

namespace Schema

variable {α β : Type} {v v' : Json} {name : String}

/-! ## Kinds and places -/

/-- The kind of value that a place asks for. -/
inductive Kind where
  | text
  | flag
  | mapping (name : String) (nullable : Bool)

/-- Sections are asked for. -/
def Kind.IsSection : Kind → Prop
  | .mapping _ _ => True
  | _ => False

instance (k : Kind) : Decidable k.IsSection :=
  match k with
  | .mapping _ _ => isTrue trivial
  | .text | .flag => isFalse id

/-- The words for a flag, in small letters. -/
def flagWords : Bool → List String
  | true => ["1", "on", "t", "true", "y", "yes"]
  | false => ["0", "off", "f", "false", "n", "no"]

/-- The value stands for the flag. -/
def SaysFlag (b : Bool) : Json → Prop
  | .bool b' => b' = b
  | .int i => i = b.toInt
  | .float d => d.toInt? = some b.toInt
  | .str (.whole s) => String.ofList (s.toList.map Char.toLower) ∈ flagWords b
  | _ => False

instance (b : Bool) (v : Json) : Decidable (SaysFlag b v) :=
  match v with
  | .bool b' => inferInstanceAs (Decidable (b' = b))
  | .int i => inferInstanceAs (Decidable (i = b.toInt))
  | .float d => inferInstanceAs (Decidable (d.toInt? = some b.toInt))
  | .str (.whole s) =>
    inferInstanceAs (Decidable (String.ofList (s.toList.map Char.toLower) ∈ flagWords b))
  | .str (.broken ..) | .null | .arr _ | .obj _ => isFalse id

/-- The value is of that kind. -/
def Kind.Accepts : Kind → Json → Prop
  | .text, .str (.whole _) => True
  | .text, _ => False
  | .flag, v => ∃ b, SaysFlag b v
  | .mapping _ _, .obj _ => True
  | .mapping _ nullable, .null => nullable = true
  | .mapping _ _, _ => False

instance (k : Kind) (v : Json) : Decidable (k.Accepts v) :=
  match k with
  | .text =>
    match v with
    | .str (.whole _) => isTrue trivial
    | .str (.broken ..) | .null | .bool _ | .int _ | .float _ | .arr _ | .obj _ => isFalse id
  | .flag => inferInstanceAs (Decidable (∃ b, SaysFlag b v))
  | .mapping _ nullable =>
    match v with
    | .obj _ => isTrue trivial
    | .null => inferInstanceAs (Decidable (nullable = true))
    | .bool _ | .int _ | .float _ | .str _ | .arr _ => isFalse id

/-- What can be wrong with a value that is not of that kind. -/
def Kind.problems : Kind → List Problem
  | .text => [.notText, .badBytes]
  | .flag => [.unclearFlag, .notFlag, .badBytes]
  | .mapping name _ => [.notSection name]

/-- A place: the names that lead to it, and what it asks for. -/
structure Place where
  path : List String
  kind : Kind

namespace Place

/-- The place inside a member of that name. -/
def under (name : String) (p : Place) : Place := { p with path := name :: p.path }

/-- What is found at the place is of its kind. -/
def IsMet (p : Place) (v : Json) : Prop := ∀ x ∈ v.at? p.path, p.kind.Accepts x

instance (p : Place) (v : Json) : Decidable (p.IsMet v) :=
  inferInstanceAs (Decidable (∀ x ∈ v.at? p.path, p.kind.Accepts x))

end Place

/-- The places that are not met. -/
def offending (v : Json) (places : List Place) : List Place := places.filter fun p => ¬p.IsMet v

/-- The offence is at the place, and is of its kind. -/
def Offence.Reports (e : Offence) (p : Place) : Prop :=
  e.path = p.path ∧ e.problem ∈ p.kind.problems

/-- The section of a path. -/
def pathPlaces : List Place := [⟨[], .mapping "_PathDoc" false⟩, ⟨["path"], .text⟩]

/-- The section of certificate authorities. -/
def authorityPlaces : List Place :=
  ⟨[], .mapping "_CADoc" false⟩ :: pathPlaces.map (.under "cert")

/-- The section of the client's certificate. -/
def clientPlaces : List Place :=
  ⟨[], .mapping "_ClientDoc" false⟩ ::
    (pathPlaces.map (.under "cert") ++ (pathPlaces.map (.under "key") ++
      (pathPlaces.map (.under "passphrase") ++ [⟨["disabled"], .flag⟩])))

/-- The section of certificates. -/
def tlsPlaces : List Place :=
  ⟨[], .mapping "TLSDoc" true⟩ ::
    (⟨["name"], .text⟩ :: (authorityPlaces.map (.under "ca") ++
      (clientPlaces.map (.under "client") ++ [⟨["insecure_skip_verify"], .flag⟩])))

/-- The section of static credentials. -/
def basicPlaces : List Place :=
  [⟨[], .mapping "BasicAuthDoc" true⟩, ⟨["username"], .text⟩, ⟨["password"], .text⟩,
    ⟨["auth"], .text⟩, ⟨["email"], .text⟩, ⟨["serveraddress"], .text⟩,
    ⟨["identitytoken"], .text⟩, ⟨["registrytoken"], .text⟩, ⟨["password_file"], .text⟩]

/-- A whole configuration, with the name under which the helper is looked for. -/
def placesWith (helper : String) : List Place :=
  ⟨[], .mapping "SecurityDoc" false⟩ ::
    (tlsPlaces.map (.under "tls") ++ (basicPlaces.map (.under "basic") ++ [⟨[helper], .text⟩]))

/-- The name under which the helper is looked for: the second only where the first is missing. -/
def helperKey (v : Json) : String :=
  if (v.get? "credsStore").isSome then "credsStore" else "creds_store"

/-- The places of a configuration, in the order in which they are looked at. -/
def places (v : Json) : List Place := placesWith (helperKey v)

/-- The path is that of a place, under either name of the helper. -/
def IsKnown (path : List String) : Prop :=
  ∃ helper ∈ ["credsStore", "creds_store"], path ∈ (placesWith helper).map (·.path)

instance (path : List String) : Decidable (IsKnown path) :=
  inferInstanceAs (Decidable (∃ helper ∈ ["credsStore", "creds_store"], _))

example : (placesWith "credsStore").map (·.path) =
    [[], ["tls"], ["tls", "name"], ["tls", "ca"], ["tls", "ca", "cert"],
      ["tls", "ca", "cert", "path"], ["tls", "client"], ["tls", "client", "cert"],
      ["tls", "client", "cert", "path"], ["tls", "client", "key"], ["tls", "client", "key", "path"],
      ["tls", "client", "passphrase"], ["tls", "client", "passphrase", "path"],
      ["tls", "client", "disabled"], ["tls", "insecure_skip_verify"], ["basic"],
      ["basic", "username"], ["basic", "password"], ["basic", "auth"], ["basic", "email"],
      ["basic", "serveraddress"], ["basic", "identitytoken"], ["basic", "registrytoken"],
      ["basic", "password_file"], ["credsStore"]] := rfl

/-! ## What is not met -/

theorem isMet_under (p : Place) :
    (p.under name).IsMet v ↔ ∀ x, v.get? name = some x → p.IsMet x := by
  simp only [Place.IsMet, Place.under, Json.at?, Option.mem_def, Option.bind_eq_some_iff]
  exact ⟨fun h x hx y hy => h y ⟨x, hx, hy⟩, fun h y ⟨x, hx, hy⟩ => h x hx y hy⟩

/-- The places inside a member are met or not by that member. -/
theorem offending_under_of_some {x : Json} (h : v.get? name = some x) (ps : List Place) :
    offending v (ps.map (.under name)) = (offending x ps).map (.under name) := by
  have hmet (p : Place) : (p.under name).IsMet v ↔ p.IsMet x := by
    rw [isMet_under, h]
    exact ⟨fun hx => hx x rfl, fun hx y hy => Option.some.inj hy ▸ hx⟩
  simp only [offending, List.filter_map, Function.comp_def, hmet]

/-- What is missing is no offence. -/
theorem offending_under_of_none (h : v.get? name = none) (ps : List Place) :
    offending v (ps.map (.under name)) = [] := by
  simp [offending, isMet_under, h]

theorem offending_append (ps qs : List Place) :
    offending v (ps ++ qs) = offending v ps ++ offending v qs := List.filter_append ..

theorem offending_cons_of_accepts {k : Kind} (h : k.Accepts v) (ps : List Place) :
    offending v (⟨[], k⟩ :: ps) = offending v ps :=
  List.filter_cons_of_neg (by simpa [Place.IsMet, Json.at?] using h)

theorem offending_cons_of_not_accepts {k : Kind} (h : ¬k.Accepts v) (ps : List Place) :
    offending v (⟨[], k⟩ :: ps) = ⟨[], k⟩ :: offending v ps :=
  List.filter_cons_of_pos (by simpa [Place.IsMet, Json.at?] using h)

/-- Nothing is found below what is no section. -/
theorem offending_eq_nil (h : ∀ members, v ≠ .obj members) {ps : List Place}
    (below : ∀ p ∈ ps, p.path ≠ []) : offending v ps = [] := by
  have hget (key : String) : v.get? key = none := by
    cases v with
    | obj members => exact absurd rfl (h members)
    | _ => rfl
  refine List.filter_eq_nil_iff.mpr fun p hp => ?_
  obtain ⟨name, path, hpath⟩ := List.exists_cons_of_ne_nil (below p hp)
  simp [Place.IsMet, hpath, Json.at?, hget]

theorem at?_cons_of_some {x : Json} (h : v.get? name = some x) (path : List String) :
    v.at? (name :: path) = x.at? path := by
  rw [Json.at?, h, Option.bind_some]

theorem at?_cons_of_none (h : v.get? name = none) (path : List String) :
    v.at? (name :: path) = none := by
  rw [Json.at?, h, Option.bind_none]

theorem mem_offending {p : Place} {ps : List Place} :
    p ∈ offending v ps ↔ p ∈ ps ∧ ∃ x, v.at? p.path = some x ∧ ¬p.kind.Accepts x := by
  simp [offending, Place.IsMet]

/-- Only below a mapping is anything found. -/
theorem exists_members_of_at? {path : List String} {rest : List String} {x : Json}
    (h : v.at? (path ++ name :: rest) = some x) : ∃ members, v.at? path = some (.obj members) := by
  induction path generalizing v with
  | nil =>
    cases v with
    | obj members => exact ⟨members, rfl⟩
    | _ => cases h
  | cons key path ih =>
    rw [List.cons_append] at h
    cases hget : v.get? key with
    | none =>
      rw [at?_cons_of_none hget] at h
      cases h
    | some y =>
      rw [at?_cons_of_some hget] at h ⊢
      exact ih h

/-- Below a text or a flag there are no places. -/
theorem path_eq_of_leaf {helper : String} (hhelper : helper ∈ ["credsStore", "creds_store"]) :
    ∀ p ∈ placesWith helper, ¬p.kind.IsSection → ∀ q ∈ placesWith helper, p.path <+: q.path →
      p.path = q.path := by
  rcases List.mem_pair.mp hhelper with rfl | rfl <;> decide +kernel

/-- What is not met is not below another place that is not met. -/
theorem path_eq_of_offending {helper : String} (hhelper : helper ∈ ["credsStore", "creds_store"])
    {p q : Place} (hp : p ∈ offending v (placesWith helper))
    (hq : q ∈ offending v (placesWith helper)) (h : p.path <+: q.path) : p.path = q.path := by
  obtain ⟨hp, x, hx, haccepts⟩ := mem_offending.mp hp
  obtain ⟨hq, y, hy, -⟩ := mem_offending.mp hq
  obtain ⟨rest, hrest⟩ := h
  cases rest with
  | nil => rwa [List.append_nil] at hrest
  | cons name rest =>
    rw [← hrest] at hy
    obtain ⟨members, hmembers⟩ := exists_members_of_at? hy
    obtain rfl := Option.some.inj (hx.symm.trans hmembers)
    -- the mapping was not accepted, so that a text or a flag is asked for
    refine path_eq_of_leaf hhelper p hp (fun hsection => haccepts ?_) q hq ⟨_, hrest⟩
    cases hkind : p.kind with
    | mapping => trivial
    | text | flag =>
      rw [hkind] at hsection
      cases hsection

theorem nodup_placesWith {helper : String} (hhelper : helper ∈ ["credsStore", "creds_store"]) :
    ((placesWith helper).map (·.path)).Nodup := by
  rcases List.mem_pair.mp hhelper with rfl | rfl <;> decide +kernel

theorem helperKey_mem (v : Json) : helperKey v ∈ ["credsStore", "creds_store"] := by
  rw [helperKey]
  split <;> decide

/-- In the same document the helper is looked for under the same name. -/
theorem helperKey_eq_of_sameBut (h : v.SameBut IsKnown v') : helperKey v' = helperKey v := by
  have hknown : IsKnown ["credsStore"] := ⟨"credsStore", List.mem_cons_self, by decide +kernel⟩
  have hget := h.get? hknown
  have hfound : (v'.get? "credsStore").isSome = (v.get? "credsStore").isSome := by
    generalize v.get? "credsStore" = x, v'.get? "credsStore" = x' at hget
    cases hget <;> rfl
  rw [helperKey, helperKey, hfound]

end Schema
end RegistryAuth
