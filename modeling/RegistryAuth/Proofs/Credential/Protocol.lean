import RegistryAuth.Credential.Helper
import RegistryAuth.Proofs.Json.Grammar

/-!
# Asking a helper program

A helper program is started once, with `get` for its argument and the address for its input, and
all else is read off from how it ends (`Launcher.ask_protocol`).

* If it succeeds and writes an object, then what is read are the texts that the object carries as
  its three members, whatever else is in it and however they are written.
* There are credentials in no other case than that it succeeds and writes an object with a secret
  that is a text.
* If it fails, the first text that it leaves is the cause: what it has written, its complaints,
  or its status.

That an object carries a text is said with the grammar of documents and the members as they stand
there, so that a name that is written with escapes is the same name.
-/

namespace RegistryAuth

/-- The same programs, with the calls to them noted in order. -/
def Launcher.watched {σ : Type} (launch : Launcher σ) : Launcher (List ProgramCall × σ) :=
  fun call s =>
    let (run, s') := launch call s.2
    (run, s.1 ++ [call], s')

/-- A whole number in decimal is written as usual. -/
theorem ofList_intText (i : Int) : String.ofList (intText i) = toString i := by
  cases i with
  | ofNat n => rfl
  | negSucc n =>
    have hprint : toString (Int.negSucc n) = "-" ++ String.ofList (natText (n + 1)) := rfl
    rw [intText, if_pos (Int.negSucc_lt_zero n), hprint, Int.natAbs_negSucc,
      ← String.ofList_append]
    rfl

namespace Helper

open Json (CarriesOnce WritesObject IsSpaces)

variable {program secret : String} {text : List Char} {members : List (CodeText × Json)}

/-- The cause is the first text that says something. -/
theorem find?_failureText (stdout stderr : String) (status : Int) :
    [Text.trimString stdout, Text.trimString stderr, "exit status " ++ toString status].find?
      (· ≠ "") = some (failureText stdout stderr status) := by
  rw [failureText, ofList_intText]
  by_cases hout : Text.trimString stdout = ""
  · by_cases herr : Text.trimString stderr = ""
    · simp [hout, herr]
    · simp [hout, herr]
  · simp [hout]

/-- A member that is a text is that text, also if it is empty. -/
theorem memberText_of_str {v : Json} {key text : String} (h : v.get? key = some (.str text)) :
    memberText v key = text := by
  simp only [memberText, h]
  by_cases hempty : text = ""
  · subst hempty
    rfl
  · have hsays : (Json.str text).isTruthy = true := by
      simpa [Json.isTruthy, CodeText.isEmpty] using hempty
    rw [if_pos hsays]
    rfl

theorem readOutput_of_writes {username url : String} (h : WritesObject members text)
    (husername : CarriesOnce "Username" (.str username) members)
    (hsecret : CarriesOnce "Secret" (.str secret) members)
    (hurl : CarriesOnce "ServerURL" (.str url) members) :
    readOutput program (String.ofList text) = .ok ⟨username, secret, url⟩ := by
  have hparse : Json.parse (String.ofList text) = .ok (Json.ofMembers members) := by
    refine Json.parse_eq_ok_iff.mpr ⟨[], text, [], List.forall_mem_nil _, h.writes,
      List.forall_mem_nil _, ?_⟩
    rw [String.toList_ofList, List.append_nil, List.nil_append]
  simp only [readOutput, hparse, hsecret.get?_ofMembers,
    memberText_of_str husername.get?_ofMembers, memberText_of_str hurl.get?_ofMembers,
    CodeText.shown_whole]

/-- Credentials come of an object whose secret is a text. -/
theorem writes_of_readOutput {out : String} {c : HelperCredentials}
    (h : readOutput program out = .ok c) :
    ∃ space text space' members secret, IsSpaces space ∧ WritesObject members text ∧
      IsSpaces space' ∧ out.toList = space ++ (text ++ space') ∧
      members.reverse.lookup (.whole "Secret") = some (.str secret) ∧
      c.secret = secret.shown := by
  rw [readOutput] at h
  split at h
  · cases h
  · cases h
  · rename_i v hparse
    split at h
    · rename_i secret hsecret
      obtain rfl := Except.ok.inj h
      obtain ⟨space, text, space', blank, hwrites, blank', hout⟩ := Json.parse_eq_ok_iff.mp hparse
      -- what has a member is an object that is not empty
      cases v with
      | obj found =>
        have hne : found ≠ [] := by
          rintro rfl
          cases hsecret
        obtain ⟨members, hobject, hmembers⟩ := hwrites.exists_members hne
        refine ⟨space, text, space', members, secret, blank, hobject, blank', hout, ?_, rfl⟩
        rw [← Json.get?_ofMembers, hmembers]
        exact hsecret
      | _ => cases hsecret
    · cases h

end Helper

namespace Launcher

open Json (CarriesOnce WritesObject IsSpaces)

variable {σ : Type}

/-- To note the calls changes nothing else, and there is one. -/
theorem ask_watched (launch : Launcher σ) (program : String) (limit : Option Seconds)
    (server : String) (calls : List ProgramCall) (s : σ) :
    launch.watched.ask program limit server (calls, s) =
      ((launch.ask program limit server s).1, calls ++ [⟨program, ["get"], server, limit⟩],
        (launch.ask program limit server s).2) := rfl

/-- **What a helper program is asked, and what is read from it.**

* It is started once, with the one argument `get` and the address as its input.
* If it succeeds and writes the text of an object, between blanks, that carries a name, a secret
  and an address as texts and each of them once, then it hands out just these, whatever its
  complaints are; and the identity is made of the name, the secret and the address that was asked
  for, or it is a token if the name says so.
* It hands something out only if it succeeds, and if what it writes without the blanks around it
  is an object of which the last secret is a text; that text is the secret, as far as characters
  can show it.
* If it fails, the error is that of the program, and its cause is the first text that says
  something: its output, its complaints, each without the blanks around it, or its status.  The
  server is unknown exactly if the cause is the text that says so. -/
theorem ask_protocol (launch : Launcher σ) (program : String) (limit : Option Seconds)
    (server : String) (s : σ) :
    (∀ calls, (launch.watched.ask program limit server (calls, s)).2.1 =
      calls ++ [⟨program, ["get"], server, limit⟩]) ∧
    (∀ stdout stderr members before text after, ∀ username secret url : String,
      (launch ⟨program, ["get"], server, limit⟩ s).1 = .finished stdout stderr 0 →
      stdout.toList = before ++ text ++ after → (∀ c ∈ before, Text.isBlank c = true) →
      (∀ c ∈ after, Text.isBlank c = true) → WritesObject members text →
      CarriesOnce "Username" (.str username) members →
      CarriesOnce "Secret" (.str secret) members → CarriesOnce "ServerURL" (.str url) members →
      (launch.ask program limit server s).1 = .ok ⟨username, secret, url⟩ ∧
        (launch.ask program limit server s).1.map (·.identity server) =
          .ok (if username = "<token>" then .token secret server
            else .password username secret server)) ∧
    (∀ c, (launch.ask program limit server s).1 = .ok c →
      ∃ stdout stderr space text space' members secret,
        (launch ⟨program, ["get"], server, limit⟩ s).1 = .finished stdout stderr 0 ∧
        (Text.trimString stdout).toList = space ++ (text ++ space') ∧ IsSpaces space ∧
        IsSpaces space' ∧ WritesObject members text ∧
        members.reverse.lookup (.whole "Secret") = some (.str secret) ∧
        c.secret = secret.shown) ∧
    ∀ stdout stderr status,
      (launch ⟨program, ["get"], server, limit⟩ s).1 = .finished stdout stderr status →
      status ≠ 0 → ∃ cause e,
        [Text.trimString stdout, Text.trimString stderr, "exit status " ++ toString status].find?
          (· ≠ "") = some cause ∧
        (launch.ask program limit server s).1 = .error (.helper e) ∧ e.helper = program ∧
        e.fault.message = cause ∧
        (e.fault.isUnknownServer = true ↔ cause = "credentials not found in native keychain") := by
  have hask : (launch.ask program limit server s).1 =
      (launch ⟨program, ["get"], server, limit⟩ s).1.credentials program limit := rfl
  rw [hask]
  generalize (launch ⟨program, ["get"], server, limit⟩ s).1 = run
  refine ⟨fun calls => congrArg (·.2.1) (ask_watched launch program limit server calls s),
    ?_, ?_, ?_⟩
  · rintro stdout stderr members before text after username secret url rfl hout hbefore hafter
      hwrites husername hsecret hurl
    have htrim : Text.trimString stdout = String.ofList text := by
      obtain ⟨hhead, hlast⟩ := hwrites.ends
      rw [Text.trimString, hout]
      refine congrArg String.ofList (Text.trimBoth_append_of_ends hbefore hafter ?_ ?_)
      · rw [hhead]
        rintro c ⟨⟩
        decide
      · rw [hlast]
        rintro c ⟨⟩
        decide
    have hcredentials : HelperRun.credentials program limit (.finished stdout stderr 0) =
        .ok ⟨username, secret, url⟩ := by
      rw [HelperRun.credentials, if_pos rfl, htrim,
        Helper.readOutput_of_writes hwrites husername hsecret hurl]
    rw [hcredentials]
    exact ⟨rfl, rfl⟩
  · intro c hc
    cases run with
    | failed | timedOut | limitRefused | garbled | nulInPath => cases hc
    | finished stdout stderr status =>
      rw [HelperRun.credentials] at hc
      split at hc
      · rename_i hstatus
        obtain ⟨space, text, space', members, secret, blank, hwrites, blank', hout, hsecret⟩ :=
          Helper.writes_of_readOutput hc
        exact ⟨stdout, stderr, space, text, space', members, secret, by rw [hstatus], hout, blank,
          blank', hwrites, hsecret⟩
      · cases hc
  · rintro stdout stderr status rfl hstatus
    refine ⟨Helper.failureText stdout stderr status, _, Helper.find?_failureText stdout stderr
      status, by rw [HelperRun.credentials, if_neg hstatus], rfl, ?_⟩
    generalize Helper.failureText stdout stderr status = cause
    change (Helper.failureFault cause).message = cause ∧
      ((Helper.failureFault cause).isUnknownServer = true ↔ cause = Helper.unknownServerText)
    rw [Helper.failureFault]
    by_cases hunknown : cause = Helper.unknownServerText
    · rw [if_pos hunknown]
      exact ⟨rfl, iff_of_true rfl hunknown⟩
    · rw [if_neg hunknown]
      exact ⟨rfl, iff_of_false nofun hunknown⟩

/-- Blanks that are none in a document stand around the object, one of the names is written with
an escape, there is a member more, and the name says that the secret is a token. -/
theorem ask_protocol_of_token :
    let inside :=
      "\"x\":[12],\n\"Secret\": \"s\\u00e9 \", \"ServerURL\": \"\", \"\\u0055sername\": \"<token>\""
    let stdout := "\u00a0\x7b" ++ inside ++ "\x7d\x0c\r\n"
    let launch : Launcher Unit := fun _ s => (.finished stdout "denied" 0, s)
    (launch.ask "helper" none "example.com" ()).1 = .ok ⟨"<token>", "sé ", ""⟩ ∧
      (launch.ask "helper" none "example.com" ()).1.map (·.identity "example.com") =
        .ok (.token "sé " "example.com") := by
  intro inside stdout launch
  let members : List (CodeText × Json) :=
    [("x", .arr [.int 12]), ("Secret", .str "sé "), ("ServerURL", .str ""),
      ("Username", .str "<token>")]
  have hwrites : WritesObject members
      (Char.ofNat 123 :: ([] ++ (inside.toList ++ [Char.ofNat 125]))) := by
    have hread :
        Json.readMembers [] 20 (inside.toList ++ [Char.ofNat 125]) = .ok (members, []) := by
      unfold inside members
      cbv
    obtain ⟨t, hinside, ht⟩ := Json.writes_of_readMembers 20 hread
    rw [List.append_cancel_right ht]
    exact ⟨[], t, List.forall_mem_nil _, hinside, rfl⟩
  have husername : CarriesOnce "Username" (.str "<token>") members :=
    ⟨members.take 3, [], rfl, by simp [members]⟩
  have hsecret : CarriesOnce "Secret" (.str "sé ") members :=
    ⟨members.take 1, members.drop 2, rfl, by simp [members]⟩
  have hurl : CarriesOnce "ServerURL" (.str "") members :=
    ⟨members.take 2, members.drop 3, rfl, by simp [members]⟩
  have hstdout : stdout.toList = [Char.ofNat 160] ++
      (Char.ofNat 123 :: ([] ++ (inside.toList ++ [Char.ofNat 125]))) ++
        [Char.ofNat 12, '\r', '\n'] := by decide +kernel
  have hbefore : ∀ c ∈ [Char.ofNat 160], Text.isBlank c = true := List.all_eq_true.mp rfl
  have hafter : ∀ c ∈ [Char.ofNat 12, '\r', '\n'], Text.isBlank c = true :=
    List.all_eq_true.mp rfl
  obtain ⟨-, hsuccess, -, -⟩ := ask_protocol launch "helper" none "example.com" ()
  exact hsuccess stdout "denied" members _ _ _ "<token>" "sé " "" rfl hstdout hbefore hafter
    hwrites husername hsecret hurl

end Launcher
end RegistryAuth
