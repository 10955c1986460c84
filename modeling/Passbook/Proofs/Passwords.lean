import Passbook.Launch
import Passbook.Proofs.Bookkeeping

/-! Settings dumped without the password of their database address. The scheme ends before the first colon and the host starts behind
the last `@`, so that nothing a password holds can move its borders; and all that a launch has of it is the settings it runs on. -/
namespace Passbook
namespace Settings

theorem cutFirst_append {c : Char} {before : List Char} (absent : c ∉ before) (mark after : List Char) :
    cutFirst (c :: mark) (before ++ (c :: mark ++ after)) = some (before, after) := by
  induction before with
  | nil => simp [cutFirst]
  | cons first before ih =>
    obtain ⟨other, absent⟩ := List.ne_and_not_mem_of_not_mem_cons absent
    have elsewhere : ¬ (c :: mark).isPrefixOf (first :: (before ++ (c :: mark ++ after))) = true := by
      simp [List.isPrefixOf, other]
    rw [List.cons_append, cutFirst, if_neg elsewhere, ih absent]
    rfl

theorem cutLast_of_notMem {c : Char} {chars : List Char} (absent : c ∉ chars) : cutLast c chars = none := by
  induction chars with
  | nil => rfl
  | cons first chars ih =>
    obtain ⟨other, absent⟩ := List.ne_and_not_mem_of_not_mem_cons absent
    rw [cutLast, ih absent]
    exact if_neg other.symm

theorem cutLast_append {c : Char} {after : List Char} (absent : c ∉ after) (before : List Char) :
    cutLast c (before ++ c :: after) = some (before, after) := by
  induction before with
  | nil =>
    rw [List.nil_append, cutLast, cutLast_of_notMem absent]
    exact if_pos rfl
  | cons first before ih => rw [List.cons_append, cutLast, ih]

theorem takeWhile_before {c : Char} {before : List Char} (absent : c ∉ before) (after : List Char) :
    (before ++ c :: after).takeWhile (· ≠ c) = before := by
  have inside : ∀ d ∈ before, decide (d ≠ c) = true := by
    intro d among
    refine decide_eq_true fun same => absent ?_
    rw [← same]
    exact among
  rw [List.takeWhile_append_of_pos inside]
  simp

def addressOf (scheme user password host : String) : String := scheme ++ "://" ++ user ++ ":" ++ password ++ "@" ++ host

theorem maskedUrl_addressOf {scheme user host : String} (inScheme : ':' ∉ scheme.toList) (inUser : ':' ∉ user.toList)
    (inHost : '@' ∉ host.toList) (password : String) :
    maskedUrl (addressOf scheme user password host) = some (scheme ++ "://" ++ user ++ ":***@" ++ host) := by
  have chars : (addressOf scheme user password host).toList =
      scheme.toList ++ ("://".toList ++ (user.toList ++ ':' :: password.toList ++ '@' :: host.toList)) := by
    simp [addressOf]
  have placed : (addressOf scheme user password host).toList.contains '@' = true := by
    rw [chars]
    simp
  have schemeCut : cutFirst "://".toList (addressOf scheme user password host).toList =
      some (scheme.toList, user.toList ++ ':' :: password.toList ++ '@' :: host.toList) := by
    rw [chars]
    exact cutFirst_append inScheme ['/', '/'] _
  have hostCut := cutLast_append inHost (user.toList ++ ':' :: password.toList)
  simp only [maskedUrl, schemeCut, placed, hostCut, takeWhile_before inUser, Bool.not_true, Bool.false_eq_true, if_false]
  simp only [String.ofList_append, String.ofList_toList]

example : maskedUrl "postgresql://ledger:s://e:c@ret@db:5432/payments" = some "postgresql://ledger:***@db:5432/payments" := by
  decide +kernel

/-- The fields of the settings by name, each with its value but for the address. -/
def dumpWith (s : Settings) (url : String) : Json := .object [
  ("environment", .string s.environment),
  ("database_url", .string url),
  ("database_pool_size", .int s.poolSize),
  ("database_pool_timeout", .int s.poolTimeout),
  ("database_echo", .bool s.echoesStatements),
  ("api_host", .string s.host),
  ("api_port", .int s.port),
  ("api_prefix", .string s.mountPath),
  ("log_level", .string s.logLevel),
  ("log_format", .string s.logFormat),
  ("log_file", match s.logFile with
    | some file => .string file
    | none => .null),
  ("report_cache_ttl_seconds", .int s.cacheTtl),
  ("report_cache_clean_interval_seconds", .int s.cacheInterval),
  ("report_base_url", .string s.reportBaseUrl),
  ("auto_migrate", .bool s.migratesOnStart)]

theorem toJson_readdressed (s : Settings) (url : String) : ({ s with databaseUrl := url } : Settings).toJson = s.dumpWith url := by
  unfold toJson dumpWith
  cases s.logFile <;> rfl

end Settings

theorem System.start_readdressed {τ : Type} (s : Settings) (url : String) (isLent : Bool) (seconds : Int → τ) (time : τ)
    (store : Store Database) :
    (System.start { s with databaseUrl := url } isLent seconds time store).1 =
      (System.start s isLent seconds time store).1.map fun system => { system with settings.databaseUrl := url } := by
  unfold System.start
  have same : System.prepareStore { s with databaseUrl := url } = System.prepareStore s := rfl
  rw [same]
  dsimp only
  split <;> rfl

theorem System.settings_of_start {τ : Type} {s : Settings} {isLent : Bool} {seconds : Int → τ} {time : τ} {store : Store Database}
    {system : System τ} (started : (System.start s isLent seconds time store).1 = .ok system) : system.settings = s := by
  unfold System.start at started
  dsimp only at started
  split at started <;> cases started
  rfl

namespace Launch
variable {τ : Type} {assigned : List (String × String)} {seconds : Int → τ} {monotonic : τ} {time : Time.Reading} {launch : Launch τ}

theorem start_eq_ok {s shown : Settings} (loaded : Settings.load { assigned } = .ok s) (masked : s.masked? = some shown)
    (started : start assigned seconds monotonic time = .ok launch) :
    ∃ system, (System.start s false seconds monotonic ⟨Database.empty, .idle, time, []⟩).1 = .ok system ∧
      launch = ⟨listeningOf s, openingOf s shown time, Journal.Layout.ofName s.logFormat, ⟨system, true⟩⟩ := by
  unfold start at started
  rw [loaded] at started
  simp only [masked, Except.mapError, ok_bind, bind_eq_ok] at started
  obtain ⟨-, -, system, ran, app, mounted, told⟩ := started
  unfold Http.Application.mount at mounted
  split at mounted
  · cases mounted
    cases told
    exact ⟨system, ran, rfl⟩
  · cases mounted

theorem extra_of_openingOf {s shown : Settings} {record : Journal.Record} (told : openingOf s shown time = some record) :
    record.details.extra = some shown.toJson := by
  unfold openingOf at told
  dsimp only at told
  split at told <;> cases told
  rfl

/-- Launches on two addresses that are masked alike differ in nothing but the address that their systems keep. -/
theorem start_readdressed {s shown : Settings} {url url' : String} {assigned' : List (String × String)} {launch' : Launch τ}
    (loaded : Settings.load { assigned } = .ok { s with databaseUrl := url })
    (loaded' : Settings.load { assigned := assigned' } = .ok { s with databaseUrl := url' })
    (masked : ({ s with databaseUrl := url } : Settings).masked? = some shown)
    (masked' : ({ s with databaseUrl := url' } : Settings).masked? = some shown)
    (started : start assigned seconds monotonic time = .ok launch) (started' : start assigned' seconds monotonic time = .ok launch') :
    launch' = { launch with app.system.settings.databaseUrl := url' } := by
  obtain ⟨system, ran, rfl⟩ := start_eq_ok loaded masked started
  obtain ⟨system', ran', rfl⟩ := start_eq_ok loaded' masked' started'
  have apart := System.start_readdressed { s with databaseUrl := url } url' false seconds monotonic ⟨Database.empty, .idle, time, []⟩
  rw [ran] at apart
  cases apart.symm.trans ran'
  rfl

end Launch

namespace Settings

/-- Whatever the password in the address, the dump is the same: it has all fields of the settings, with stars for the password and
nothing else changed. Two launches that differ in the password alone have the same first record and the same journal, and each goes
on with the settings as they were given. -/
theorem dump_hides_password (s : Settings) {scheme user host : String} (inScheme : ':' ∉ scheme.toList)
    (inUser : ':' ∉ user.toList) (inHost : '@' ∉ host.toList) (p q : String) :
    let held (password : String) : Settings := { s with databaseUrl := addressOf scheme user password host }
    let url := scheme ++ "://" ++ user ++ ":***@" ++ host
    (held p).masked? = some { s with databaseUrl := url } ∧ (held q).masked? = (held p).masked? ∧
      (held p).masked?.map toJson = some (s.dumpWith url) ∧
      ∀ (τ : Type) (seconds : Int → τ) (monotonic : τ) (time : Time.Reading) (assigned assigned' : List (String × String))
        (launch launch' : Launch τ), load { assigned } = .ok (held p) → load { assigned := assigned' } = .ok (held q) →
        Launch.start assigned seconds monotonic time = .ok launch → Launch.start assigned' seconds monotonic time = .ok launch' →
          launch.app.system.settings = held p ∧
          launch.opening = Launch.openingOf (held p) { s with databaseUrl := url } time ∧
          (∀ record, launch.opening = some record → record.details.extra = some (s.dumpWith url)) ∧
          launch' = { launch with app.system.settings := held q } := by
  intro held url
  have masked (password : String) : (held password).masked? = some { s with databaseUrl := url } := by
    unfold masked?
    rw [maskedUrl_addressOf inScheme inUser inHost]
    rfl
  refine ⟨masked p, by rw [masked, masked], ?_, ?_⟩
  · rw [masked, Option.map_some, toJson_readdressed]
  · intro τ seconds monotonic time assigned assigned' launch launch' loaded loaded' started started'
    have apart := Launch.start_readdressed loaded loaded' (masked p) (masked q) started started'
    obtain ⟨system, ran, rfl⟩ := Launch.start_eq_ok loaded (masked p) started
    have settings := System.settings_of_start ran
    refine ⟨settings, rfl, fun record told => ?_, apart.trans ?_⟩
    · rw [← toJson_readdressed]
      exact Launch.extra_of_openingOf told
    · dsimp only
      rw [settings]

/-- A password that holds all the marks of an address. -/
theorem dump_hides_password_of_marks :
    let held (password : String) : Settings := { databaseUrl := addressOf "postgresql" "ledger" password "db:5432/payments" }
    (':' ∉ "postgresql".toList ∧ ':' ∉ "ledger".toList ∧ '@' ∉ "db:5432/payments".toList) ∧
      (held "p@ss://w:rd/@").databaseUrl = "postgresql://ledger:p@ss://w:rd/@@db:5432/payments" ∧
      (held "p@ss://w:rd/@").masked?.map databaseUrl = some "postgresql://ledger:***@db:5432/payments" ∧
      (held "secret").masked? = (held "p@ss://w:rd/@").masked? := by
  intro held
  have inScheme : ':' ∉ "postgresql".toList := by decide
  have inUser : ':' ∉ "ledger".toList := by decide
  have inHost : '@' ∉ "db:5432/payments".toList := by decide
  obtain ⟨masked, same, -⟩ := dump_hides_password {} inScheme inUser inHost "p@ss://w:rd/@" "secret"
  refine ⟨⟨inScheme, inUser, inHost⟩, by decide, ?_, same⟩
  rw [masked]
  decide

end Settings
end Passbook
