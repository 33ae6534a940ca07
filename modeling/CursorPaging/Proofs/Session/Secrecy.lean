import CursorPaging.Program
import CursorPaging.Proofs.Http.Credentials
import CursorPaging.Proofs.Session.Override
import CursorPaging.Proofs.Session.Simulation

/-!
# The access token in a session

An access token comes from the command line, from the configuration file, or from an environment
variable that the file names (`Swaps`). Two sessions that differ in nothing but the token have
configurations that differ in nothing else (`twins_configuration`), and open the same table on two
services that differ in nothing else (`twins_openTable`). Over a network that does not look at the
token, they are the same from there on (`run_alike`); what goes over it is the same but for the
token (`run_conceals`).
-/

namespace CursorPaging.Session

open CommandLine (Invocation QueryOptions)
open Config (Reads SameButToken)
open Http (IsHeaderValue ListService Network Recorded SameTraffic Server)

variable {σ : Type} {token token' : String} {host host' : Host} {i i' : Invocation}

/-- The second session is the first one with another token, which comes from the same place. -/
inductive Swaps (token token' : String) (host : Host) (i : Invocation) :
    Host → Invocation → Prop where
  /-- The token is an option of the command line, whatever the file says. -/
  | option (given : i.accessToken = some token) :
    Swaps token token' host i host { i with accessToken := some token' }
  /-- The token is in the configuration file. -/
  | file {path : String} {c : Config} {files' : Files} (untold : i.accessToken = none)
    (named : i.config = some path) (reads : Reads host.files path c)
    (held : c.accessToken = some token)
    (reads' : Reads files' path { c with accessToken := some token' }) :
    Swaps token token' host i { host with files := files' } i
  /-- The token is in the variable that the configuration file names. -/
  | environment {path name : String} {c : Config} {env' : Environment}
    (untold : i.accessToken = none)
    (named : i.config = some path) (reads : Reads host.files path c) (unheld : c.accessToken = none)
    (kept : c.accessTokenEnv = some name) (value : host.env name = some token)
    (value' : env' name = some token') :
    Swaps token token' host i { host with env := env' } i

/-! ## Configurations -/

/-- The configurations of two sessions that differ in the token. -/
inductive TwinConfigs (token token' : String) (host host' : Host) :
    Except Error Config → Except Error Config → Prop where
  | error (e : Error) : TwinConfigs token token' host host' (.error e) (.error e)
  | ok {c c' : Config} (same : SameButToken c c')
    (bears : c.resolveAccessToken host.env = .ok (some token))
    (bears' : c'.resolveAccessToken host'.env = .ok (some token')) :
    TwinConfigs token token' host host' (.ok c) (.ok c')

theorem check_of_sameButToken {c c' : Config} (h : SameButToken c c') : c'.check = c.check := by
  rw [h]
  rfl

/-- A check that both sessions make. -/
theorem TwinConfigs.after (x : Except Error Unit) {f g : Unit → Except Error Config}
    (h : TwinConfigs token token' host host' (f ()) (g ())) :
    TwinConfigs token token' host host' (x >>= f) (x >>= g) := by
  cases x with
  | error e => exact .error e
  | ok => exact h

/-- Configurations that differ in the token pass the check both or not at all. -/
theorem TwinConfigs.checked {c c' : Config} (same : SameButToken c c')
    (bears : c.resolveAccessToken host.env = .ok (some token))
    (bears' : c'.resolveAccessToken host'.env = .ok (some token')) :
    TwinConfigs token token' host host' (do c.check; return c) (do c'.check; return c') := by
  rw [check_of_sameButToken same]
  exact .after _ (.ok same bears bears')

theorem resolveAccessToken_of_held {c : Config} (h : c.accessToken = some token)
    (env : Environment) : c.resolveAccessToken env = .ok (some token) := by
  simp only [Config.resolveAccessToken, h]

theorem resolveAccessToken_of_kept {c : Config} {env : Environment} {name : String}
    (h : c.accessToken = none) (kept : c.accessTokenEnv = some name)
    (value : env name = some token) : c.resolveAccessToken env = .ok (some token) := by
  simp only [Config.resolveAccessToken, h, kept, value]

theorem accessToken_override_of_untold (c : Config) (h : i.accessToken = none) :
    (override i c).accessToken = c.accessToken := by
  simp only [override, h, Option.none_or]

theorem twins_configuration (h : Swaps token token' host i host' i') :
    TwinConfigs token token' host host' (configuration host i) (configuration host' i') := by
  cases h with
  | option given =>
    rw [configuration, configuration,
      show configured host { i with accessToken := some token' } = configured host i from rfl]
    cases configured host i with
    | error e => exact .error e
    | ok c =>
      refine .checked rfl (resolveAccessToken_of_held ?_ _) (resolveAccessToken_of_held rfl _)
      simp only [override, given, Option.some_or]
  | @file path c files' untold named reads held reads' =>
    have same : SameButToken c { c with accessToken := some token' } := rfl
    have same' : SameButToken (override i c) (override i { c with accessToken := some token' }) :=
      rfl
    have hheld := (accessToken_override_of_untold c untold).trans held
    have hheld' := accessToken_override_of_untold { c with accessToken := some token' } untold
    rw [configuration_of_reads named reads, configuration_of_reads named reads',
      check_of_sameButToken same]
    exact .after _ (.checked same' (resolveAccessToken_of_held hheld _)
      (resolveAccessToken_of_held hheld' _))
  | @environment path name c env' untold named reads unheld kept value value' =>
    have hunheld := (accessToken_override_of_untold c untold).trans unheld
    rw [show configuration { host with env := env' } i = configuration host i from rfl,
      configuration_of_reads named reads]
    exact .after _ (.checked rfl (resolveAccessToken_of_kept hunheld kept value)
      (resolveAccessToken_of_kept hunheld kept value'))

/-! ## Tables -/

/-- The tables of two sessions that differ in the token, over a network in the given state. -/
inductive TwinTables (token token' : String) (s : σ) :
    Except Error (Opened σ) → Except Error (Opened σ) → Prop where
  | error (e : Error) : TwinTables token token' s (.error e) (.error e)
  | ok {service : ListService} {table : Paging.Table σ Json} (source : table.source = s) :
    TwinTables token token' s (.ok ⟨service.withToken token, table⟩)
      (.ok ⟨service.withToken token', table⟩)

/-- The settings of a configuration, without any token. -/
def settingsOf (c : Config) : Http.Settings where
  baseUrl := some c.baseUrl
  timeout := c.timeoutSecs * 1000
  rateLimit := c.rateLimit
  accessToken := none
  defaultHeaders := c.defaultHeaders
  userAgent := c.userAgent.getD Http.Settings.defaultUserAgent

theorem clientOf_of_bears {c : Config} (h : c.resolveAccessToken host.env = .ok (some token)) :
    clientOf host c = Http.Client.ofSettings ((settingsOf c).withToken token) := by
  rw [clientOf, Config.httpSettings, h]
  rfl

theorem ofSettings_withToken (settings : Http.Settings) (token : String) :
    Http.Client.ofSettings (settings.withToken token) =
      (fun _ => ⟨settings.withToken token⟩) <$> Http.Client.ofSettings settings := by
  unfold Http.Client.ofSettings
  show (if settings.userAgent.toList.all Http.isValueChar then _ else _) = _
  split <;> rfl

/-- Tables that are opened with different tokens differ in these alone. -/
theorem twins_openTable (h : Swaps token token' host i host' i') (resource : Resource)
    (q : QueryOptions) (s : σ) :
    TwinTables token token' s (openTable host i resource q s)
      (openTable host' i' resource q s) := by
  have hdate : host'.dateOffset = host.dateOffset := by cases h <;> rfl
  have hconfig := twins_configuration h
  unfold openTable
  rw [hdate]
  generalize configuration host i = x at hconfig
  generalize configuration host' i' = y at hconfig
  cases hconfig with
  | error e => exact .error e
  | @ok c c' same bears bears' =>
    have hsettings : settingsOf c' = settingsOf c := by rw [same]; rfl
    have hsize : pageSizeOf c' q = pageSizeOf c q := by rw [same]; rfl
    have hsizes : c'.pageSizes = c.pageSizes := by rw [same]; rfl
    simp only [bind, Except.bind, clientOf_of_bears bears, clientOf_of_bears bears', hsettings,
      hsize, hsizes, ofSettings_withToken]
    cases Http.Client.ofSettings (settingsOf c) with
    | error e => exact .error e
    | ok client =>
      cases Query.ofExpressions resource host.dateOffset q.filters q.or with
      | error e => exact .error e
      | ok query =>
        cases pageSizeOf c q with
        | error e => exact .error e
        | ok pageSize =>
          cases CommandLine.parseParams .empty q.params with
          | error e => exact .error e
          | ok params => exact @TwinTables.ok _ _ _ _ ⟨⟨settingsOf c⟩, resource⟩ _ rfl

/-! ## Sessions -/

theorem withTable_alike {R : σ → σ → Prop} {s : σ} {x y : Except Error (Opened σ)}
    (h : TwinTables token token' s x y) (hs : R s s) {f g : Opened σ → Outcome σ}
    (hfg : ∀ (service : ListService) (t : Paging.Table σ Json), R t.source t.source →
      (f ⟨service.withToken token, t⟩).Like R (g ⟨service.withToken token', t⟩)) :
    (withTable s x f).Like R (withTable s y g) := by
  cases h with
  | error e => exact ⟨rfl, rfl, hs⟩
  | @ok service table source => exact hfg service table (source.symm ▸ hs)

/-- Runs with different tokens over a network that is blind to them are alike. -/
theorem run_alike (h : Swaps token token' host i host' i') (hv : IsHeaderValue token)
    (hv' : IsHeaderValue token') {R : σ → σ → Prop} {net : Network σ}
    (blind : net.Blind token token' R) {s : σ} (hs : R s s) (moves : Nat) (lines : List String) :
    (run host net s moves i lines).Like R (run host' net s moves i' lines) := by
  have hdate : host'.dateOffset = host.dateOffset := by cases h <;> rfl
  have hcommand : i'.command = i.command := by cases h <;> rfl
  have alike := Http.ListService.list_alike_of_blind blind hv hv'
  unfold run
  rw [hcommand, hdate]
  cases i.command with
  | resources => exact ⟨rfl, rfl, hs⟩
  | list resource q pages all =>
    exact withTable_alike (twins_openTable h resource q s) hs fun service t ht =>
      list_alike (alike service) _ moves ht
  | browse resource q =>
    exact withTable_alike (twins_openTable h resource q s) hs fun service t ht =>
      browse_alike (alike service) _ ht lines

/-- What two sessions that differ in the token have in common. -/
structure Conceals (token token' : String) (i i' : Invocation)
    (o o' : Outcome (List (Http.Request × Http.Reply) × Server)) : Prop where
  /-- The requests are the same but for the token in their credentials, and so are the replies. -/
  traffic : SameTraffic token token' o.network.1 o'.network.1
  script : o'.network.2.script = o.network.2.script
  messages : o'.messages = o.messages
  ending : o'.ending = o.ending
  /-- Output, errors and exit code. -/
  report : Program.reportOn i' o' = Program.reportOn i o

/-- The access token flows into the credentials of the requests, and into nothing else. -/
theorem run_conceals (h : Swaps token token' host i host' i') (hv : IsHeaderValue token)
    (hv' : IsHeaderValue token') (s : Server) (moves : Nat) (lines : List String) :
    Conceals token token' i i' (run host Server.network.recording ([], s) moves i lines)
      (run host' Server.network.recording ([], s) moves i' lines) := by
  have hlike := run_alike h hv hv' Http.blind_server.recording
    (s := ([], s)) ⟨.nil, rfl, rfl, rfl⟩ moves lines
  have hprinted : printed i' = printed i := by cases h <;> rfl
  exact {
    traffic := hlike.network.1
    script := hlike.network.2.script
    messages := hlike.messages.symm
    ending := hlike.ending.symm
    report := by simp only [Program.reportOn, ← hlike.messages, ← hlike.ending, hprinted] }

/-- A list of sessions of the console in the configuration file. -/
def fromFile : Invocation := { locally with baseUrl := none, accessToken := none }

theorem run_conceals_two_pages :
    let one := hostWith "base_url: http://localhost\naccess_token: one\n"
    let two := hostWith "base_url: http://localhost\naccess_token: two\n"
    let run := fun host => run host Server.network.recording ([], twoPages) 5 fromFile []
    Swaps "one" "two" one fromFile two fromFile ∧ IsHeaderValue "one" ∧ IsHeaderValue "two" ∧
      (run one).network.1.length = 2 ∧
      Conceals "one" "two" fromFile fromFile (run one) (run two) := by
  intro one two run
  have hone : Reads one.files "console.yaml"
      { Config.ofUrl "http://localhost" with accessToken := some "one" } :=
    reads_hostWith (by decide +kernel)
  have htwo : Reads two.files "console.yaml"
      { Config.ofUrl "http://localhost" with accessToken := some "two" } :=
    reads_hostWith (by decide +kernel)
  have hswaps : Swaps "one" "two" one fromFile two fromFile := .file rfl rfl hone rfl htwo
  have hv : IsHeaderValue "one" := by unfold IsHeaderValue; decide
  have hv' : IsHeaderValue "two" := by unfold IsHeaderValue; decide
  exact ⟨hswaps, hv, hv', by decide +kernel, run_conceals hswaps hv hv' twoPages 5 []⟩

end CursorPaging.Session
