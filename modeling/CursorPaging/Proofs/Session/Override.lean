import CursorPaging.Proofs.Query.Steps
import CursorPaging.Proofs.Session.Listing

/-!
# Options over the configuration file

An option of the command line takes the place of a value in the configuration file, after the file
was read and checked. So an access token in the file does not matter if another one is given, but an
address does, although it is never used: one that the checks refuse ends the command.

* `configuration_of_reads`, `configuration_of_baseUrl`: the configuration of a file, in general and
  with an address on the command line;
* `openTable_congr`, `run_congr`: a command knows no more of its file than what `uses` shows;
* `run_ending`: once there is a configuration, a command does not fail because of an address;
* `run_override`: which differences between two files show.
-/

namespace CursorPaging

namespace Error

/-- The error is about the address of the console. -/
def IsAddress : Error → Prop
  | .missingField _ | .invalidUrl _ => True
  | _ => False

end Error

namespace Config

/-- The checks after that of the address. -/
def checkRest (c : Config) : Except Error Unit := do
  checkPositive "timeout_secs" mustBePositive c.timeoutSecs
  checkPositive "page_size" mustBePositive c.pageSize
  checkOptions c.pageSizeOptions
  checkRate c.rateLimit

theorem check_eq (c : Config) : c.check = checkBaseUrl c.baseUrl >>= fun _ => c.checkRest := rfl

theorem isAddress_checkBaseUrl {url : String} {e : Error} (h : checkBaseUrl url = .error e) :
    e.IsAddress := by
  unfold checkBaseUrl at h
  split at h
  · cases h; trivial
  · split at h
    · cases h
    · cases h; trivial

/-- The file can be read, and says what the configuration is; nothing is checked yet. -/
def Reads (files : Files) (path : String) (c : Config) : Prop :=
  ∃ text, files path = .ok text ∧ read text = .ok c

/-- The configurations are the same but for the address. -/
def SameButUrl (c c' : Config) : Prop := c' = { c with baseUrl := c'.baseUrl }

/-- The configurations are the same but for the access token and the variable that holds it. -/
def SameButToken (c c' : Config) : Prop :=
  c' = { c with accessToken := c'.accessToken, accessTokenEnv := c'.accessTokenEnv }

/-- What the checks say if an address is given besides a file: the file is checked with its own
address, and the given one is checked after it. -/
def verdict (c : Config) (given : String) : Except Error Unit := do
  c.check
  checkBaseUrl given

end Config

namespace Session

open CommandLine (Invocation QueryOptions)
open Config (Reads SameButUrl SameButToken verdict)

variable {σ : Type} {host host' : Host} {i : Invocation} {resource : Resource} {q : QueryOptions}
  {path given : String} {c c' : Config} {s : σ}

/-! ## The configuration of a command -/

/-- A configuration file is checked before and after the options override it. -/
theorem configuration_of_reads (hi : i.config = some path) (h : Reads host.files path c) :
    configuration host i = do
      c.check
      (override i c).check
      return override i c := by
  obtain ⟨text, hfile, hread⟩ := h
  have hload : configured host i = c.check >>= fun _ => .ok c := by
    simp only [configured, hi, Config.load, Config.fileText, hfile]
    show Config.ofText text = _
    rw [Config.ofText, hread]
    rfl
  rw [configuration, hload]
  cases c.check <;> rfl

theorem configuration_of_baseUrl (hi : i.config = some path) (h : Reads host.files path c)
    (hb : i.baseUrl = some given) :
    configuration host i = (fun _ => override i c) <$> verdict c given := by
  have hover : (override i c).check = Config.checkBaseUrl given >>= fun _ => c.checkRest := by
    rw [Config.check_eq]
    simp only [override, hb, Option.getD_some]
    rfl
  rw [configuration_of_reads hi h, hover, verdict, Config.check_eq]
  cases Config.checkBaseUrl c.baseUrl with
  | error e => rfl
  | ok =>
    cases hrest : c.checkRest with
    | error e => rfl
    | ok => cases Config.checkBaseUrl given <;> rfl

/-- An address that is given besides leaves no trace of the one in the file. -/
theorem override_of_sameButUrl (hb : i.baseUrl = some given) (h : SameButUrl c c') :
    override i c' = override i c := by
  rw [h]
  simp only [override, hb, Option.getD_some]

/-! ## What a command knows of its configuration -/

/-- What a command takes from its configuration: the client and the page sizes. -/
def uses (host : Host) (c : Config) : Except Error Http.Client × Nat × List Nat :=
  (clientOf host c, c.pageSize, c.pageSizeOptions)

/-- A table depends on no more of a configuration than what a session uses. -/
theorem openTable_congr (hd : host.dateOffset = host'.dateOffset)
    (h : uses host <$> configuration host i = uses host' <$> configuration host' i) :
    openTable host i resource q s = openTable host' i resource q s := by
  unfold openTable
  cases hc : configuration host i with
  | error e =>
    cases hc' : configuration host' i with
    | error e' => rw [hc, hc'] at h; cases h; rfl
    | ok c' => rw [hc, hc'] at h; cases h
  | ok c =>
    cases hc' : configuration host' i with
    | error e' => rw [hc, hc'] at h; cases h
    | ok c' =>
      rw [hc, hc'] at h
      have h : uses host c = uses host' c' := Except.ok.inj h
      obtain ⟨hclient, hsize, hoptions⟩ : clientOf host c = clientOf host' c' ∧
          c.pageSize = c'.pageSize ∧ c.pageSizeOptions = c'.pageSizeOptions := by
        simpa [uses] using h
      simp only [bind, Except.bind, hclient, pageSizeOf, hsize, Config.pageSizes, hoptions, hd]

theorem run_congr (hd : host.dateOffset = host'.dateOffset)
    (h : uses host <$> configuration host i = uses host' <$> configuration host' i)
    (net : Http.Network σ) (s : σ) (moves : Nat) (lines : List String) :
    run host net s moves i lines = run host' net s moves i lines := by
  unfold run
  simp only [openTable_congr hd h, hd]

/-! ## Errors after the configuration -/

/-- A computation does not fail because of an address. -/
def Clear {α : Type} (x : Except Error α) : Prop := ∀ e, x = .error e → ¬ e.IsAddress

theorem clear_ok {α : Type} (a : α) : Clear (.ok a) := nofun

theorem clear_error {α : Type} {e : Error} (h : ¬ e.IsAddress) :
    Clear (.error e : Except Error α) := fun _ he => Except.error.inj he ▸ h

/-- Two steps without errors about addresses have none together. -/
theorem Clear.bind {α β : Type} {x : Except Error α} {f : α → Except Error β} (hx : Clear x)
    (hf : ∀ a, Clear (f a)) : Clear (x >>= f) := by
  cases x with
  | error e => exact clear_error (hx e rfl)
  | ok a => exact hf a

theorem Clear.map {α β : Type} {x : Except Error α} (hx : Clear x) (f : α → β) :
    Clear (f <$> x) := by
  cases x with
  | error e => exact clear_error (hx e rfl)
  | ok a => exact clear_ok _

theorem clear_clientOf (host : Host) (c : Config) : Clear (clientOf host c) := by
  have htoken : Clear (c.resolveAccessToken host.env) := by
    unfold Config.resolveAccessToken
    split
    · exact clear_ok _
    · split
      · exact clear_ok _
      · exact clear_error id
    · exact clear_ok _
  refine (htoken.bind fun token => clear_ok _).bind fun settings => ?_
  unfold Http.Client.ofSettings
  split
  · exact clear_ok _
  · exact clear_error id

theorem clear_tokenOf (resource : Option Resource) (offset : Int) (step : Query.Step) :
    Clear (Query.Builder.tokenOf resource offset step) := by
  have hdate (value : String) : Clear (Query.normalizeDate value offset) := by
    unfold Query.normalizeDate
    split
    · exact clear_ok _
    · split
      · exact clear_error id
      · dsimp only
        split
        · exact clear_ok _
        · exact clear_error id
  have hcheck (t : FilterToken) : Clear (Query.Builder.check resource offset t) := by
    unfold Query.Builder.check
    split
    · unfold Query.Builder.checkFor
      split
      · exact clear_ok _
      · rename_i r
        refine Clear.bind ?_ fun _ => ?_
        · unfold Resource.checkProperty
          split
          · exact clear_ok _
          · exact clear_error id
        · split
          · exact (hdate _).bind fun _ => clear_ok _
          · exact clear_ok _
    · exact clear_error id
  cases step with
  | token property operator value => exact (hcheck _).map some
  | expression text =>
    refine Clear.bind ?_ fun t => (hcheck t).bind fun _ => clear_ok _
    unfold Query.parseExpression
    split
    · exact clear_error id
    · split
      · exact clear_error id
      · exact clear_ok _
  | or => exact clear_ok _

theorem clear_ofExpressions (resource : Resource) (offset : Int) (expressions : List String)
    (or : Bool) : Clear (Query.ofExpressions resource offset expressions or) := by
  intro e he
  obtain ⟨_, step, _, -, -, -, hstep⟩ := Query.build_eq_error_iff.mp he
  rw [Query.build_singleton] at hstep
  exact (clear_tokenOf _ _ step).map _ e hstep

theorem clear_pageSizeOf (c : Config) (q : QueryOptions) : Clear (pageSizeOf c q) := by
  unfold pageSizeOf
  dsimp only
  split
  · exact clear_error id
  · exact clear_ok _

theorem clear_parseParams (read : Dictionary String) (given : List String) :
    Clear (CommandLine.parseParams read given) := by
  induction given generalizing read with
  | nil => exact clear_ok _
  | cons param rest ih =>
    refine Clear.bind ?_ fun entry => ih _
    unfold CommandLine.parseParam
    dsimp only
    split
    · split
      · exact clear_error id
      · exact clear_ok _
    · exact clear_error id

theorem clear_openTable (hc : configuration host i = .ok c) :
    Clear (openTable host i resource q s) := by
  have hquery := clear_ofExpressions resource host.dateOffset q.filters q.or
  have hparams := clear_parseParams .empty q.params
  unfold openTable
  rw [hc]
  exact (clear_clientOf host c).bind fun _ => hquery.bind fun _ =>
    (clear_pageSizeOf c q).bind fun _ => hparams.bind fun _ => clear_ok _

theorem clear_nextPage (source : Paging.Source σ Json) (t : Paging.Table σ Json) :
    Clear (t.handle source .nextPage) := by
  have hpage : Clear t.controller.nextPage := by
    unfold Paging.Controller.nextPage Paging.Controller.setPage
    split
    · exact clear_error id
    · exact clear_ok _
  exact (hpage.bind fun _ => clear_ok _).bind fun _ => clear_ok _

/-- The command does not fail because of an address. -/
def Ending.Clear (ending : Ending) : Prop := ∀ e, ending = .failed e → ¬ e.IsAddress

theorem clear_walk (source : Paging.Source σ Json) (resource : Resource) (limit : Option Nat)
    (moves : Nat) (w : Walk σ) : (Walk.run source resource limit moves w).ending.Clear := by
  induction moves using Nat.strongRecOn generalizing w with
  | _ moves ih =>
  intro e he
  cases hf : w.table.controller.failed with
  | true =>
    rw [Walk.run_failed hf] at he
    cases he
    exact id
  | false =>
    cases hg : (w.print resource).2.goesOn limit with
    | false => rw [Walk.run_ended rfl hf hg] at he; cases he
    | true =>
      cases moves with
      | zero => rw [Walk.run_paused rfl hf hg] at he; cases he
      | succ moves =>
        cases hh : (w.print resource).2.table.handle source .nextPage with
        | error e' =>
          rw [Walk.run_refused rfl hf hg hh] at he
          cases he
          exact clear_nextPage _ _ _ hh
        | ok r =>
          rw [Walk.run_next rfl hf hg hh] at he
          exact ih moves (Nat.lt_succ_self _) _ e he

theorem ending_dialogue (source : Paging.Source σ Json) (resource : Resource) (dateOffset : Int)
    (table : Paging.Table σ Json) (lines : List String) :
    (dialogue source resource dateOffset table lines).ending = .completed := by
  induction lines generalizing table with
  | nil => rfl
  | cons line lines ih =>
    rw [dialogue]
    split
    · rfl
    · exact ih _

theorem clear_withTable {opened : Except Error (Opened σ)} (h : Clear opened)
    {f : Opened σ → Outcome σ} (hf : ∀ o, (f o).ending.Clear) :
    (withTable s opened f).ending.Clear := by
  cases opened with
  | ok o => exact hf o
  | error e => exact fun e' he => h e' (by cases he; rfl)

/-- Once there is a configuration, no command ends with an error about an address. -/
theorem run_ending (hc : configuration host i = .ok c) (net : Http.Network σ) (s : σ) (moves : Nat)
    (lines : List String) : (run host net s moves i lines).ending.Clear := by
  unfold run
  split
  · nofun
  · exact clear_withTable (clear_openTable hc) fun o => clear_walk _ _ _ _ _
  · refine clear_withTable (clear_openTable hc) fun o e he => ?_
    rw [browse, ending_dialogue] at he
    cases he

/-! ## Two files -/

/-- Without a configuration a command fails before it does anything. -/
theorem run_of_refused {e : Error} (hi : i.command ≠ .resources)
    (hc : configuration host i = .error e) (net : Http.Network σ) (s : σ) (moves : Nat)
    (lines : List String) : run host net s moves i lines = ⟨[], .failed e, s⟩ := by
  have hopen (resource : Resource) (q : QueryOptions) :
      openTable host i resource q s = .error e := by
    rw [openTable, hc]
    rfl
  unfold run
  split
  · contradiction
  · rw [hopen]; rfl
  · rw [hopen]; rfl

/-- Without an error from the given address, the only difference between two verdicts is an error
about an address in one of the files. -/
theorem isAddress_of_verdict (hv : verdict c given = .ok ()) (same : SameButUrl c c') {e : Error}
    (hv' : verdict c' given = .error e) : e.IsAddress := by
  obtain ⟨_, hcheck, hgiven⟩ := bind_eq_ok hv
  obtain ⟨_, -, hrest⟩ := bind_eq_ok (c.check_eq ▸ hcheck)
  have hrest' : c'.checkRest = .ok () := by
    rw [same]
    exact hrest
  rw [verdict, hgiven, Config.check_eq, hrest'] at hv'
  cases hurl : Config.checkBaseUrl c'.baseUrl with
  | error e' =>
    rw [hurl] at hv'
    cases hv'
    exact Config.isAddress_checkBaseUrl hurl
  | ok => rw [hurl] at hv'; cases hv'

section Two

variable (hi : i.command ≠ .resources) (hp : i.config = some path) (h : Reads host.files path c)
  (h' : Reads host'.files path c')

include hi hp h h'

/-- Files that differ in the address, of which one is accepted: the other one shows. -/
theorem accepted_of_run_eq (hb : i.baseUrl = some given) (same : SameButUrl c c')
    {net : Http.Network σ} {moves : Nat} {lines : List String}
    (heq : run host net s moves i lines = run host' net s moves i lines)
    (hv : verdict c given = .ok ()) : verdict c' given = .ok () := by
  cases hv' : verdict c' given with
  | ok => rfl
  | error e =>
    have hc := configuration_of_baseUrl hp h hb
    have hc' := configuration_of_baseUrl hp h' hb
    rw [hv] at hc
    rw [hv'] at hc'
    have hend := congrArg Outcome.ending heq
    rw [run_of_refused hi hc'] at hend
    exact absurd (isAddress_of_verdict hv same hv') (run_ending hc net s moves lines e hend)

theorem verdict_eq_of_run_eq (hb : i.baseUrl = some given) (same : SameButUrl c c')
    {net : Http.Network σ} {moves : Nat} {lines : List String}
    (heq : run host net s moves i lines = run host' net s moves i lines) :
    verdict c given = verdict c' given := by
  cases hv : verdict c given with
  | ok => exact (accepted_of_run_eq hi hp h h' hb same heq hv).symm
  | error e =>
    cases hv' : verdict c' given with
    | ok =>
      have back : SameButUrl c' c := by rw [SameButUrl, same]
      have := accepted_of_run_eq hi hp h' h hb back heq.symm hv'
      rw [hv] at this
      cases this
    | error e' =>
      have hc := configuration_of_baseUrl hp h hb
      have hc' := configuration_of_baseUrl hp h' hb
      rw [hv] at hc
      rw [hv'] at hc'
      rw [run_of_refused hi hc, run_of_refused hi hc'] at heq
      cases heq
      rfl

/-- Two files that differ in the address lead to the same if another address is given, exactly when
the checks say the same of both. Two files that differ in the access token, or in the variable that
holds it, always do if another token is given, and the environment does not matter then. -/
theorem run_override (hd : host.dateOffset = host'.dateOffset) (net : Http.Network σ) (s : σ)
    (moves : Nat) (lines : List String) :
    (∀ given, i.baseUrl = some given → host.env = host'.env → SameButUrl c c' →
      (run host net s moves i lines = run host' net s moves i lines ↔
        verdict c given = verdict c' given)) ∧
    (∀ given, i.accessToken = some given → SameButToken c c' →
      run host net s moves i lines = run host' net s moves i lines) := by
  refine ⟨fun given hb henv same => ⟨verdict_eq_of_run_eq hi hp h h' hb same, fun hv => ?_⟩,
    fun given ht same => ?_⟩
  · refine run_congr hd ?_ net s moves lines
    have huses : uses host (override i c) = uses host' (override i c) := by
      rw [uses, uses, clientOf, clientOf, henv]
    rw [configuration_of_baseUrl hp h hb, configuration_of_baseUrl hp h' hb, hv,
      override_of_sameButUrl hb same]
    cases verdict c' given with
    | error e => rfl
    | ok => exact congrArg Except.ok huses
  · refine run_congr hd ?_ net s moves lines
    have hcheck : c'.check = c.check := by rw [same]; rfl
    have hcheck' : (override i c').check = (override i c).check := by rw [same]; rfl
    have huses : uses host (override i c) = uses host' (override i c') := by
      rw [same]
      simp only [uses, clientOf, Config.httpSettings, Config.resolveAccessToken, override, ht,
        Option.some_or]
    rw [configuration_of_reads hp h, configuration_of_reads hp h', hcheck, hcheck']
    cases c.check with
    | error e => rfl
    | ok =>
      cases (override i c).check with
      | error e => rfl
      | ok => exact congrArg Except.ok huses

end Two

/-! ## A file that would not have been needed -/

/-- A computer with a configuration file. -/
def hostWith (text : String) : Host where
  env := fun _ => none
  files := fun path => if path = "console.yaml" then .ok text else .error .notFound
  dateOffset := 0

theorem reads_hostWith {text : String} (h : (Config.read text).toOption = some c) :
    Reads (hostWith text).files "console.yaml" c :=
  ⟨text, by simp [hostWith], eq_ok_of_toOption h⟩

/-- A list of sessions of the local console, with an access token, and with a configuration file
that says otherwise. -/
def locally : Invocation :=
  { atLocalhost (.list .sessions mine 2 false) with
    config := some "console.yaml"
    accessToken := some "mine" }

theorem run_override_localhost :
    let files := fun text => (hostWith text).files
    let run := fun text => run (hostWith text) Http.Server.network twoPages 5 locally []
    locally.command ≠ .resources ∧ locally.config = some "console.yaml" ∧
      Reads (files "base_url: http://old\n") "console.yaml" (.ofUrl "http://old") ∧
      Reads (files "base_url: http://older\n") "console.yaml" (.ofUrl "http://older") ∧
      Reads (files "base_url: http://old\naccess_token_env: OLD\n") "console.yaml"
        { Config.ofUrl "http://old" with accessTokenEnv := some "OLD" } ∧
      run "base_url: http://old\n" = run "base_url: http://older\n" ∧
      run "base_url: http://old\n" = run "base_url: http://old\naccess_token_env: OLD\n" := by
  intro files run
  have hold : Reads (files "base_url: http://old\n") "console.yaml" (.ofUrl "http://old") :=
    reads_hostWith (by decide +kernel)
  have holder : Reads (files "base_url: http://older\n") "console.yaml" (.ofUrl "http://older") :=
    reads_hostWith (by decide +kernel)
  have htoken : Reads (files "base_url: http://old\naccess_token_env: OLD\n") "console.yaml"
      { Config.ofUrl "http://old" with accessTokenEnv := some "OLD" } :=
    reads_hostWith (by decide +kernel)
  have hv : verdict (.ofUrl "http://old") "http://localhost" = .ok () :=
    eq_ok_of_toOption (by decide +kernel)
  have hv' : verdict (.ofUrl "http://older") "http://localhost" = .ok () :=
    eq_ok_of_toOption (by decide +kernel)
  have hi : locally.command ≠ .resources := by decide
  refine ⟨hi, rfl, hold, holder, htoken, ?_, ?_⟩
  · exact ((run_override hi rfl hold holder rfl Http.Server.network twoPages 5 []).1 _ rfl rfl
      rfl).mpr (hv.trans hv'.symm)
  · exact (run_override hi rfl hold htoken rfl Http.Server.network twoPages 5 []).2 _ rfl rfl

/-- Another address is given, and still one file leads to requests and the other to an error. -/
theorem run_refuses_unused_url :
    let run := fun text => run (hostWith text) Http.Server.network twoPages 5 locally []
    Reads (hostWith "base_url: http://old\n").files "console.yaml" (.ofUrl "http://old") ∧
      Reads (hostWith "base_url: not a url\n").files "console.yaml" (.ofUrl "not a url") ∧
      SameButUrl (.ofUrl "http://old") (.ofUrl "not a url") ∧
      locally.baseUrl = some "http://localhost" ∧
      (run "base_url: http://old\n").network.received.length = 2 ∧
      (run "base_url: not a url\n").network.received.length = 0 ∧
      run "base_url: http://old\n" ≠ run "base_url: not a url\n" := by
  intro run
  have hold : (run "base_url: http://old\n").network.received.length = 2 := by decide +kernel
  have hbad : (run "base_url: not a url\n").network.received.length = 0 := by decide +kernel
  refine ⟨reads_hostWith (by decide +kernel),
    reads_hostWith (by decide +kernel), rfl, rfl, hold, hbad, fun heq => ?_⟩
  rw [heq, hbad] at hold
  cases hold

end Session

end CursorPaging
