import Mathlib.Data.List.Forall2
import RegistryAuth.Proofs.Config.Places

/-!
# Checking a configuration

What reading a document comes to, in terms of the places of a configuration
(`SecurityConfig.ofJson_checks_places`).  It succeeds exactly where each value that is found at a
place is of the place's kind, and gives what stands there, or the default of a place where nothing
is found.  Where it fails, the offences are the places that are not met, one by one and in their
order.

Readers of sections are put together from readers of members, and `Schema.Reads` and
`Schema.ReadsMembers` go along with that: for each way of putting readers together there is one
lemma, and the readers of the sections are assembled from these.
-/

namespace RegistryAuth
namespace Schema

variable {α β : Type} {v v' : Json} {name : String}

/-! ## What a reader comes to -/

/-- Nothing is amiss and what is read is as it should be, or the offences are those of the places
that are not met. -/
inductive Checked.Settles (unmet : List Place) (P : α → Prop) : Checked α → Prop
  | ok {a : α} (none : unmet = []) (h : P a) : Settles unmet P (.ok a)
  | error {es : List Offence} (some : unmet ≠ []) (h : List.Forall₂ Offence.Reports es unmet) :
      Settles unmet P (.error es)

namespace Checked.Settles

variable {ps qs : List Place} {P : α → Prop} {Q : β → Prop} {a : Checked α} {b : Checked β}

theorem map (h : a.Settles ps P) {f : α → β} (hf : ∀ x, P x → Q (f x)) :
    Checked.Settles ps Q (a.map f) := by
  cases h with
  | ok none h => exact .ok none (hf _ h)
  | error some h => exact .error some h

theorem mono (h : a.Settles ps P) {P' : α → Prop} (hP : ∀ x, P x → P' x) : a.Settles ps P' := by
  cases h with
  | ok none h => exact .ok none (hP _ h)
  | error some h => exact .error some h

theorem both (ha : a.Settles ps P) (hb : b.Settles qs Q) :
    (a.both b).Settles (ps ++ qs) fun x => P x.1 ∧ Q x.2 := by
  cases ha with
  | ok none ha =>
    subst none
    cases hb with
    | ok none hb => exact .ok none ⟨ha, hb⟩
    | error some hb => exact .error some hb
  | error some ha =>
    cases hb with
    | ok none hb =>
      rw [none, List.append_nil]
      exact .error some ha
    | error _ hb => exact .error (by simp [some]) (List.rel_append ha hb)

theorem under (h : a.Settles ps P) (name : String) :
    (a.under name).Settles (ps.map (.under name)) P := by
  cases h with
  | ok none h => exact .ok (by rw [none]; rfl) h
  | error some h =>
    refine .error (by simpa using some) (List.forall₂_map_left_iff.mpr ?_)
    refine List.forall₂_map_right_iff.mpr (h.imp fun e p hep => ⟨?_, hep.2⟩)
    exact congrArg (name :: ·) hep.1

end Checked.Settles

/-- The reader of a value finds what is amiss at these places, gives what the value means, and
overlooks all other members. -/
structure Reads (read : Shape Json → Checked α) (ps : List Place) (Means : Json → α → Prop) :
    Prop where
  here : ∃ p ∈ ps, p.path = []
  settles : ∀ v, (read v.shape).Settles (offending v ps) (Means v)
  overlooks : ∀ {known : List String → Prop} {v v' : Json}, (∀ p ∈ ps, known p.path) →
    v.SameBut known v' → read v'.shape = read v.shape

/-- The same of a reader of the members of a section. -/
structure ReadsMembers (read : (String → Option Json) → Checked α) (ps : List Place)
    (Means : Json → α → Prop) : Prop where
  below : ∀ p ∈ ps, p.path ≠ []
  settles : ∀ members : List (CodeText × Json),
    (read fun key => members.lookup (.whole key)).Settles (offending (.obj members) ps)
      (Means (.obj members))
  overlooks : ∀ {known : List String → Prop} {members members' : List (CodeText × Json)},
    (∀ p ∈ ps, known p.path) → (Json.obj members).SameBut known (.obj members') →
      (read fun key => members'.lookup (.whole key)) = read fun key => members.lookup (.whole key)

section Combinators

variable {ps qs : List Place} {read : Shape Json → Checked α} {M : Json → α → Prop}
  {readMembers : (String → Option Json) → Checked α}

/-- A reader of members from the reader of one member and its default. -/
theorem Reads.member (h : Reads read ps M) {N : Json → α → Prop} {dflt : α}
    (hsome : ∀ v x a, v.get? name = some x → M x a → N v a)
    (hnone : ∀ v, v.get? name = none → N v dflt) :
    ReadsMembers (fun find => Schema.member Json.shape find name dflt read)
      (ps.map (.under name)) N where
  below p hp := by
    obtain ⟨q, -, rfl⟩ := List.mem_map.mp hp
    exact List.cons_ne_nil _ _
  settles members := by
    rw [Schema.member]
    cases hfound : members.lookup (.whole name) with
    | none =>
      have hget : (Json.obj members).get? name = none := hfound
      rw [offending_under_of_none hget]
      exact .ok rfl (hnone _ hget)
    | some x =>
      have hget : (Json.obj members).get? name = some x := hfound
      rw [offending_under_of_some hget]
      exact ((h.settles x).under name).mono fun a ha => hsome _ x a hget ha
  overlooks := by
    intro known members members' hknown hsame
    have hbelow : ∀ p ∈ ps, known (name :: p.path) := fun p hp =>
      hknown _ (List.mem_map_of_mem hp)
    obtain ⟨p, hp, hpath⟩ := h.here
    have hget := hsame.get? (hpath ▸ hbelow p hp)
    change Option.Rel _ (members.lookup (.whole name)) (members'.lookup (.whole name)) at hget
    simp only [Schema.member]
    generalize members.lookup (.whole name) = x, members'.lookup (.whole name) = x' at hget
    cases hget with
    | none => rfl
    | some hsame => exact congrArg (Checked.under name) (h.overlooks hbelow hsame)

theorem ReadsMembers.both {readMembers' : (String → Option Json) → Checked β}
    {N : Json → β → Prop} (h : ReadsMembers readMembers ps M)
    (h' : ReadsMembers readMembers' qs N) :
    ReadsMembers (fun find => (readMembers find).both (readMembers' find)) (ps ++ qs)
      fun v x => M v x.1 ∧ N v x.2 where
  below p hp := (List.mem_append.mp hp).elim (h.below p) (h'.below p)
  settles members := by
    rw [offending_append]
    exact (h.settles members).both (h'.settles members)
  overlooks hknown hsame := by
    rw [h.overlooks (fun p hp => hknown p (List.mem_append_left _ hp)) hsame,
      h'.overlooks (fun p hp => hknown p (List.mem_append_right _ hp)) hsame]

theorem ReadsMembers.map {N : Json → β → Prop} (h : ReadsMembers readMembers ps M) {f : α → β}
    (hf : ∀ v a, M v a → N v (f a)) :
    ReadsMembers (fun find => (readMembers find).map f) ps N where
  below := h.below
  settles members := (h.settles members).map (hf _)
  overlooks hknown hsame := by rw [h.overlooks hknown hsame]

/-- A value is no mapping, or its members are read. -/
theorem ReadsMembers.settles_section (h : ReadsMembers readMembers ps M) (name : String)
    {nullable : Bool} (hnull : v = .null → nullable = false) :
    (Schema.section name readMembers v.shape).Settles
      (offending v (⟨[], .mapping name nullable⟩ :: ps))
      fun a => ∃ members, v = .obj members ∧ M v a := by
  have hoffence (hv : ∀ members, v ≠ .obj members)
      (hread : Schema.section name readMembers v.shape = offence (.notSection name))
      (haccepts : ¬(Kind.mapping name nullable).Accepts v) :
      (Schema.section name readMembers v.shape).Settles
        (offending v (⟨[], .mapping name nullable⟩ :: ps))
        fun a => ∃ members, v = .obj members ∧ M v a := by
    rw [hread, offending_cons_of_not_accepts haccepts, offending_eq_nil hv h.below]
    exact .error (List.cons_ne_nil _ _) (.cons ⟨rfl, List.mem_cons_self⟩ .nil)
  cases v with
  | obj members =>
    have haccepts : (Kind.mapping name nullable).Accepts (.obj members) := trivial
    rw [offending_cons_of_accepts haccepts]
    exact (h.settles members).mono fun a ha => ⟨members, rfl, ha⟩
  | null => exact hoffence (by simp) rfl (by simp [Kind.Accepts, hnull rfl])
  | str s => cases s <;> exact hoffence (by simp) rfl id
  | bool | int | float | arr => exact hoffence (by simp) rfl id

theorem ReadsMembers.section (h : ReadsMembers readMembers ps M) (name : String) :
    Reads (Schema.section name readMembers) (⟨[], .mapping name false⟩ :: ps) M where
  here := ⟨_, List.mem_cons_self, rfl⟩
  settles v := (h.settles_section name fun _ => rfl).mono fun _ ⟨_, _, ha⟩ => ha
  overlooks hknown hsame := by
    cases hsame with
    | same => rfl
    | members missing found =>
      exact h.overlooks (fun p hp => hknown p (List.mem_cons_of_mem _ hp)) (.members missing found)

/-- A section that may be null. -/
theorem ReadsMembers.optional (h : ReadsMembers readMembers ps M) (name : String) :
    Reads (Schema.optional (Schema.section name readMembers)) (⟨[], .mapping name true⟩ :: ps)
      fun v o => v = .null ∧ o = none ∨ ∃ members a, v = .obj members ∧ o = some a ∧ M v a where
  here := ⟨_, List.mem_cons_self, rfl⟩
  settles v := by
    by_cases hnull : v = .null
    · subst hnull
      have haccepts : (Kind.mapping name true).Accepts .null := rfl
      rw [offending_cons_of_accepts haccepts, offending_eq_nil (by simp) h.below]
      exact .ok rfl (.inl ⟨rfl, rfl⟩)
    · have hread : Schema.optional (Schema.section name readMembers) v.shape =
          (Schema.section name readMembers v.shape).map some := by
        cases v with
        | null => exact absurd rfl hnull
        | str s => cases s <;> rfl
        | _ => rfl
      rw [hread]
      exact (h.settles_section name fun h => absurd h hnull).map
        fun a ⟨members, hv, ha⟩ => .inr ⟨members, a, hv, rfl, ha⟩
  overlooks hknown hsame := by
    cases hsame with
    | same => rfl
    | members missing found =>
      exact congrArg (Except.map some) (h.overlooks
        (fun p hp => hknown p (List.mem_cons_of_mem _ hp)) (.members missing found))

end Combinators

/-! ## Texts and flags -/

/-- The text at a path, or none. -/
def TextAt (v : Json) (path : List String) (s : String) : Prop :=
  v.at? path = some (.str s) ∨ v.at? path = none ∧ s = ""

/-- The flag at a path, or one that is not set. -/
def FlagAt (v : Json) (path : List String) (b : Bool) : Prop :=
  (∃ x, v.at? path = some x ∧ SaysFlag b x) ∨ v.at? path = none ∧ b = false

theorem TextAt.cons {x : Json} (h : v.get? name = some x) {path : List String} {s : String}
    (hs : TextAt x path s) : TextAt v (name :: path) s := by
  rwa [TextAt, at?_cons_of_some h]

theorem TextAt.of_none (h : v.get? name = none) (path : List String) :
    TextAt v (name :: path) "" := .inr ⟨at?_cons_of_none h path, rfl⟩

theorem FlagAt.cons {x : Json} (h : v.get? name = some x) {path : List String} {b : Bool}
    (hb : FlagAt x path b) : FlagAt v (name :: path) b := by
  rwa [FlagAt, at?_cons_of_some h]

theorem FlagAt.of_none (h : v.get? name = none) (path : List String) :
    FlagAt v (name :: path) false := .inr ⟨at?_cons_of_none h path, rfl⟩

theorem reads_text : Reads text [⟨[], .text⟩] fun v s => TextAt v [] s where
  here := ⟨_, List.mem_cons_self, rfl⟩
  settles v := by
    cases v with
    | str s =>
      cases s with
      | whole s =>
        have haccepts : Kind.text.Accepts (.str s) := trivial
        rw [offending_cons_of_accepts haccepts]
        exact .ok rfl (.inl rfl)
      | broken =>
        rw [offending_cons_of_not_accepts id]
        exact .error (List.cons_ne_nil _ _)
          (.cons ⟨rfl, List.mem_of_mem_tail List.mem_cons_self⟩ .nil)
    | null | bool | int | float | arr | obj =>
      rw [offending_cons_of_not_accepts id]
      exact .error (List.cons_ne_nil _ _) (.cons ⟨rfl, List.mem_cons_self⟩ .nil)
  overlooks _ hsame := by
    cases hsame with
    | same => rfl
    | members => rfl

/-- A number stands for a flag, or is none. -/
theorem numberFlag_cases (i : Int) :
    (∃ b, numberFlag i = .ok b ∧ i = b.toInt) ∨
      (∀ b : Bool, i ≠ b.toInt) ∧
        ∃ problem ∈ Kind.flag.problems, numberFlag i = offence problem := by
  by_cases hzero : i = 0
  · exact .inl ⟨false, by rw [numberFlag, if_pos hzero], hzero⟩
  by_cases hone : i = 1
  · exact .inl ⟨true, by rw [numberFlag, if_neg hzero, if_pos hone], hone⟩
  refine .inr ⟨fun b => by cases b <;> assumption, ?_⟩
  rw [numberFlag, if_neg hzero, if_neg hone]
  split
  · exact ⟨_, List.mem_cons_self, rfl⟩
  · exact ⟨_, List.mem_of_mem_tail List.mem_cons_self, rfl⟩

theorem flagWord?_eq_some_iff {s : String} {b : Bool} :
    flagWord? s = some b ↔ String.ofList (s.toList.map Char.toLower) ∈ flagWords b := by
  have hapart (w : String) : w ∈ flagWords true → w ∉ flagWords false := by
    simp only [flagWords, List.mem_cons, List.not_mem_nil, or_false]
    rintro (rfl | rfl | rfl | rfl | rfl | rfl) <;> decide
  simp only [flagWord?, List.contains_eq_mem, decide_eq_true_eq]
  generalize String.ofList (s.toList.map Char.toLower) = w at *
  change (if w ∈ flagWords true then some true
    else if w ∈ flagWords false then some false else none) = some b ↔ _
  by_cases htrue : w ∈ flagWords true
  · cases b <;> simp [htrue, hapart]
  · cases b <;> simp [htrue]

/-- A word stands for a flag, or for none. -/
theorem wordFlag_cases (s : String) :
    (∃ b, wordFlag s = .ok b ∧ SaysFlag b (.str s)) ∨
      (∀ b, ¬SaysFlag b (.str s)) ∧
        ∃ problem ∈ Kind.flag.problems, wordFlag s = offence problem := by
  simp only [wordFlag]
  cases hword : flagWord? s with
  | some b => exact .inl ⟨b, rfl, flagWord?_eq_some_iff.mp hword⟩
  | none =>
    refine .inr ⟨fun b hb => ?_, _, List.mem_cons_self, rfl⟩
    rw [flagWord?_eq_some_iff.mpr hb] at hword
    cases hword

theorem flag_cases (v : Json) :
    (∃ b, flag v.shape = .ok b ∧ SaysFlag b v) ∨
      (∀ b, ¬SaysFlag b v) ∧ ∃ problem ∈ Kind.flag.problems, flag v.shape = offence problem := by
  cases v with
  | bool b => exact .inl ⟨b, rfl, rfl⟩
  | int i => exact numberFlag_cases i
  | str s =>
    cases s with
    | whole s => exact wordFlag_cases s
    | broken =>
      exact .inr ⟨fun _ => id, _,
        List.mem_of_mem_tail (List.mem_of_mem_tail List.mem_cons_self), rfl⟩
  | float d =>
    cases hint : d.toInt? with
    | none =>
      refine .inr ⟨fun b hb => ?_, _, List.mem_of_mem_tail List.mem_cons_self, ?_⟩
      · cases hint.symm.trans hb
      · simp only [Json.shape, flag, hint]
    | some i =>
      have hread : flag (Json.float d).shape = numberFlag i := by simp only [Json.shape, flag, hint]
      have hflag (b : Bool) : SaysFlag b (.float d) ↔ i = b.toInt := by simp [SaysFlag, hint]
      simp only [hread, hflag]
      exact numberFlag_cases i
  | null | arr | obj => exact .inr ⟨fun _ => id, _, List.mem_of_mem_tail List.mem_cons_self, rfl⟩

theorem reads_flag : Reads flag [⟨[], .flag⟩] fun v b => FlagAt v [] b where
  here := ⟨_, List.mem_cons_self, rfl⟩
  settles v := by
    rcases flag_cases v with ⟨b, hread, hflag⟩ | ⟨hflag, problem, hproblem, hread⟩
    · have haccepts : Kind.flag.Accepts v := ⟨b, hflag⟩
      rw [hread, offending_cons_of_accepts haccepts]
      exact .ok rfl (.inl ⟨v, rfl, hflag⟩)
    · have haccepts : ¬Kind.flag.Accepts v := fun ⟨b, hb⟩ => hflag b hb
      rw [hread, offending_cons_of_not_accepts haccepts]
      exact .error (List.cons_ne_nil _ _) (.cons ⟨rfl, hproblem⟩ .nil)
  overlooks _ hsame := by
    cases hsame with
    | same => rfl
    | members => rfl

/-! ## Sections -/

theorem Reads.text_member {read : Shape Json → Checked String} {ps : List Place}
    {path : List String} (h : Reads read ps fun v s => TextAt v path s) (name : String) :
    ReadsMembers (fun find => Schema.member Json.shape find name "" read) (ps.map (.under name))
      fun v s => TextAt v (name :: path) s :=
  h.member (fun _ _ _ hget hs => hs.cons hget) fun _ hget => .of_none hget path

theorem Reads.flag_member {read : Shape Json → Checked Bool} {ps : List Place}
    {path : List String} (h : Reads read ps fun v b => FlagAt v path b) (name : String) :
    ReadsMembers (fun find => Schema.member Json.shape find name false read)
      (ps.map (.under name)) fun v b => FlagAt v (name :: path) b :=
  h.member (fun _ _ _ hget hb => hb.cons hget) fun _ hget => .of_none hget path

theorem reads_path : Reads (path Json.shape) pathPlaces fun v s => TextAt v ["path"] s :=
  (reads_text.text_member "path").section "_PathDoc"

theorem reads_authorities :
    Reads (authorities Json.shape) authorityPlaces fun v s => TextAt v ["cert", "path"] s :=
  (reads_path.text_member "cert").section "_CADoc"

/-- What the section of the client's certificate says. -/
def ClientAt (v : Json) (path : List String) (x : String × String × String × Bool) : Prop :=
  TextAt v (path ++ ["cert", "path"]) x.1 ∧ TextAt v (path ++ ["key", "path"]) x.2.1 ∧
    TextAt v (path ++ ["passphrase", "path"]) x.2.2.1 ∧ FlagAt v (path ++ ["disabled"]) x.2.2.2

theorem reads_client : Reads (client Json.shape) clientPlaces fun v x => ClientAt v [] x :=
  ((reads_path.text_member "cert").both <| (reads_path.text_member "key").both <|
    (reads_path.text_member "passphrase").both <| reads_flag.flag_member "disabled").section
      "_ClientDoc"

end Schema

/-- The settings are what stands in the section of certificates. -/
structure TlsConfig.StandsIn (v : Json) (t : TlsConfig) : Prop where
  name : Schema.TextAt v ["name"] t.name
  caPath : Schema.TextAt v ["ca", "cert", "path"] t.caPath
  certPath : Schema.TextAt v ["client", "cert", "path"] t.certPath
  keyPath : Schema.TextAt v ["client", "key", "path"] t.keyPath
  passphrasePath : Schema.TextAt v ["client", "passphrase", "path"] t.passphrasePath
  disabled : Schema.FlagAt v ["client", "disabled"] t.disabled
  skipVerify : Schema.FlagAt v ["insecure_skip_verify"] t.skipVerify

/-- The credentials are what stands in the section of credentials. -/
structure BasicAuth.StandsIn (v : Json) (b : BasicAuth) : Prop where
  username : Schema.TextAt v ["username"] b.username
  password : Schema.TextAt v ["password"] b.password
  auth : Schema.TextAt v ["auth"] b.auth
  email : Schema.TextAt v ["email"] b.email
  serverAddress : Schema.TextAt v ["serveraddress"] b.serverAddress
  identityToken : Schema.TextAt v ["identitytoken"] b.identityToken
  registryToken : Schema.TextAt v ["registrytoken"] b.registryToken
  passwordFile : Schema.TextAt v ["password_file"] b.passwordFile

namespace Schema

/-- A section that is missing or null is none, and any other is what stands in it. -/
inductive SectionAt (v : Json) (name : String) (P : Json → α → Prop) : Option α → Prop
  | missing (h : v.at? [name] = none) : SectionAt v name P none
  | null (h : v.at? [name] = some .null) : SectionAt v name P none
  | found {members : List (CodeText × Json)} {a : α} (h : v.at? [name] = some (.obj members))
      (stands : P (.obj members) a) : SectionAt v name P (some a)

end Schema

/-- The configuration is what stands in the document, with the helper under that name. -/
structure SecurityConfig.StandsIn (v : Json) (helper : String) (cfg : SecurityConfig) : Prop where
  tls : Schema.SectionAt v "tls" TlsConfig.StandsIn cfg.tls
  basic : Schema.SectionAt v "basic" BasicAuth.StandsIn cfg.basic
  helper : Schema.TextAt v [helper] cfg.helper

namespace Schema

variable {α : Type} {v v' : Json} {name : String}

theorem reads_tls :
    Reads (optional (tls Json.shape)) tlsPlaces fun v o =>
      v = .null ∧ o = none ∨
        ∃ members t, v = .obj members ∧ o = some t ∧ TlsConfig.StandsIn v t := by
  have hclient : ReadsMembers
      (fun find => member Json.shape find "client" ("", "", "", false) (client Json.shape))
      (clientPlaces.map (.under "client")) fun v x => ClientAt v ["client"] x :=
    reads_client.member
      (fun _ _ _ hget ⟨hcert, hkey, hpass, hdisabled⟩ =>
        ⟨hcert.cons hget, hkey.cons hget, hpass.cons hget, hdisabled.cons hget⟩)
      fun _ hget => ⟨.of_none hget _, .of_none hget _, .of_none hget _, .of_none hget _⟩
  have hmembers := (reads_text.text_member "name").both <|
    (reads_authorities.text_member "ca").both <| hclient.both <|
    reads_flag.flag_member "insecure_skip_verify"
  exact ReadsMembers.optional (hmembers.map fun v x ⟨hname, hca, ⟨hcert, hkey, hpass, hdisabled⟩,
    hskip⟩ => ⟨hname, hca, hcert, hkey, hpass, hdisabled, hskip⟩) "TLSDoc"

theorem reads_basic :
    Reads (optional (basic Json.shape)) basicPlaces fun v o =>
      v = .null ∧ o = none ∨
        ∃ members b, v = .obj members ∧ o = some b ∧ BasicAuth.StandsIn v b := by
  have hmembers := (reads_text.text_member "username").both <|
    (reads_text.text_member "password").both <| (reads_text.text_member "auth").both <|
    (reads_text.text_member "email").both <| (reads_text.text_member "serveraddress").both <|
    (reads_text.text_member "identitytoken").both <|
    (reads_text.text_member "registrytoken").both <| reads_text.text_member "password_file"
  exact ReadsMembers.optional (hmembers.map
    fun v x ⟨username, password, auth, email, address, identityToken, registryToken, file⟩ =>
      ⟨username, password, auth, email, address, identityToken, registryToken, file⟩)
    "BasicAuthDoc"

/-- A section that may be null, as a member. -/
theorem Reads.section_member {read : Shape Json → Checked (Option α)} {ps : List Place}
    {P : Json → α → Prop}
    (h : Reads read ps fun v o =>
      v = .null ∧ o = none ∨ ∃ members a, v = .obj members ∧ o = some a ∧ P v a)
    (name : String) :
    ReadsMembers (fun find => Schema.member Json.shape find name none read) (ps.map (.under name))
      fun v o => SectionAt v name P o := by
  refine h.member (fun v x o hget ho => ?_) fun v hget => .missing (at?_cons_of_none hget [])
  have hat : v.at? [name] = some x := at?_cons_of_some hget []
  rcases ho with ⟨rfl, rfl⟩ | ⟨members, a, rfl, rfl, ha⟩
  · exact .null hat
  · exact .found hat ha

/-- A whole configuration, with the helper under that name. -/
def configWith (helper : String) : Shape Json → Checked SecurityConfig :=
  «section» "SecurityDoc" fun find =>
    ((member Json.shape find "tls" none (optional (tls Json.shape))).both <|
      (member Json.shape find "basic" none (optional (basic Json.shape))).both <|
      member Json.shape find helper "" text).map
    fun (tls, basic, helper) => ⟨tls, basic, helper⟩

theorem reads_configWith (helper : String) :
    Reads (configWith helper) (placesWith helper)
      fun v cfg => SecurityConfig.StandsIn v helper cfg := by
  have hmembers := (reads_tls.section_member "tls").both <|
    (reads_basic.section_member "basic").both <| reads_text.text_member helper
  exact ReadsMembers.section (hmembers.map fun v x ⟨htls, hbasic, hhelper⟩ =>
    ⟨htls, hbasic, hhelper⟩) "SecurityDoc"

/-! ## Whole documents -/

/-- Where there is no helper, it does not matter under which name it is missing. -/
theorem config_eq_configWith (v : Json) :
    config Json.shape v.shape = configWith (helperKey v) v.shape := by
  cases v with
  | obj members =>
    have hhelper : member Json.shape (fun key => members.lookup (.whole key))
          (helperName fun key => members.lookup (.whole key)) "" text =
        member Json.shape (fun key => members.lookup (.whole key)) (helperKey (.obj members)) ""
          text := by
      by_cases hfirst : (members.lookup (.whole "credsStore")).isSome
      · simp [helperName, helperKey, Json.get?, hfirst]
      · by_cases hsecond : (members.lookup (.whole "creds_store")).isSome
        · simp [helperName, helperKey, Json.get?, hfirst, hsecond]
        · rw [Bool.not_eq_true, Option.isSome_eq_false_iff, Option.isNone_iff_eq_none]
            at hfirst hsecond
          simp [helperName, helperKey, Json.get?, member, hfirst, hsecond]
    simp only [config, configWith, «section», Json.shape, hhelper]
  | str s => cases s <;> rfl
  | _ => rfl

/-- Offences at places that are not met are apart from one another. -/
theorem paths_of_reports {helper : String} (hhelper : helper ∈ ["credsStore", "creds_store"])
    {offences : List Offence}
    (h : List.Forall₂ Offence.Reports offences (offending v (placesWith helper))) :
    (offences.map (·.path)).Nodup ∧
      ∀ o ∈ offences, ∀ o' ∈ offences, o.path <+: o'.path → o = o' := by
  have hpaths : offences.map (·.path) = (offending v (placesWith helper)).map (·.path) := by
    generalize offending v (placesWith helper) = ps at h
    induction h with
    | nil => rfl
    | cons hreports _ ih => rw [List.map_cons, List.map_cons, hreports.1, ih]
  have hnodup : (offences.map (·.path)).Nodup := by
    rw [hpaths]
    exact (nodup_placesWith hhelper).sublist (List.filter_sublist.map _)
  have hplace {o : Offence} (ho : o ∈ offences) :
      ∃ p ∈ offending v (placesWith helper), p.path = o.path :=
    List.mem_map.mp (hpaths ▸ List.mem_map_of_mem ho)
  refine ⟨hnodup, fun o ho o' ho' hprefixed => ?_⟩
  obtain ⟨p, hp, hpath⟩ := hplace ho
  obtain ⟨q, hq, hpath'⟩ := hplace ho'
  rw [← hpath, ← hpath'] at hprefixed
  have heq : o.path = o'.path := by
    rw [← hpath, ← hpath']
    exact path_eq_of_offending hhelper hp hq hprefixed
  exact List.inj_on_of_nodup_map hnodup ho ho' heq

/-- What is no place is overlooked. -/
theorem config_eq_of_sameBut (h : v.SameBut IsKnown v') :
    config Json.shape v'.shape = config Json.shape v.shape := by
  rw [config_eq_configWith, config_eq_configWith, helperKey_eq_of_sameBut h]
  exact (reads_configWith (helperKey v)).overlooks
    (fun p hp => ⟨helperKey v, helperKey_mem v, List.mem_map_of_mem hp⟩) h

end Schema

namespace SecurityConfig

open Schema (places offending helperKey Offence)

theorem ofJson_eq_ofValue_said (v : Json) : ofJson v = ofValue Json.shape v.said := by
  rw [ofJson, Json.said]
  split
  · rfl
  · rfl

theorem said_sameBut {known : List String → Prop} {v v' : Json} (h : v.SameBut known v') :
    v.said.SameBut known v'.said := by
  cases h with
  | same => exact .same _
  | @members _ ms ms' missing found =>
    have hsaid (ms : List (CodeText × Json)) : (Json.obj ms).said = .obj ms := by
      cases ms with
      | nil => rfl
      | cons => rfl
    rw [hsaid, hsaid]
    exact .members missing found

end SecurityConfig
end RegistryAuth
