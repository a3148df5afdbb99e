import ClusterMap.Proofs.Text.Blank
import ClusterMap.Settings
import Mathlib.Logic.Function.Basic

/-!
# Blanks around the values of variables

Texts and counts are trimmed before they are used, so blanks around them do not matter for the
settings, nor for the error that is reported (`Settings.read_congr`). The address of the task
service is the exception: it is tested and kept as it is. With a blank in front of it no settings
are read, and a blank behind it becomes a part of the address (`Settings.read_padded`).
-/

namespace ClusterMap.Settings

open Environment (Lookup)
open Text (AllBlank isBlank trim)

variable {env env' : Lookup} {name v address address' : String} {s : Settings}

/-! ### What the readers see of an environment -/

theorem readText_congr (h : (env' name).map trim = (env name).map trim) :
    readText env' name = readText env name := by
  rw [readText, readText, h]

theorem readCount_congr (h : (env' name).map trim = (env name).map trim) (bits substitute : Nat) :
    readCount env' name bits substitute = readCount env name bits substitute := by
  -- a count is read from the trimmed value
  have hread : ∀ env : Lookup, readCount env name bits substitute =
      ((env name).map trim).elim (.ok substitute) fun text =>
        (Text.readNatural (Nat.pow 2 bits - 1) text).mapError (.unreadable name bits) := by
    intro env
    rw [readCount]
    cases env name with
    | none => rfl
    | some raw => rw [Option.map_some, Option.elim_some]
  rw [hread, hread, h]

theorem readPositive_congr (h : (env' name).map trim = (env name).map trim) (substitute : Nat) :
    readPositive env' name substitute = readPositive env name substitute := by
  rw [readPositive, readPositive, readCount_congr h]

/-! ### The address of the task service -/

/-- Whether a text begins as the address of a task service has to. -/
def IsHttp (url : String) : Prop := url.startsWith "http://" ∨ url.startsWith "https://"

instance (url : String) : Decidable (IsHttp url) := inferInstanceAs (Decidable (_ ∨ _))

theorem blank_not_mem_http : ∀ c ∈ "http://".toList, isBlank c = false := by simp [isBlank]

theorem blank_not_mem_https : ∀ c ∈ "https://".toList, isBlank c = false := by simp [isBlank]

theorem IsHttp.trim_ne_empty {url : String} (h : IsHttp url) : trim url ≠ "" := by
  rcases h with h | h
  · exact Text.trim_ne_empty_of_startsWith (by decide) blank_not_mem_http h
  · exact Text.trim_ne_empty_of_startsWith (by decide) blank_not_mem_https h

/-- The address that an environment gives. -/
def url (env : Lookup) : String :=
  (env "TOPOLOGY_TASK_API_URL").getD "http://localhost:8080/api/v1"

theorem url_of_set (h : env "TOPOLOGY_TASK_API_URL" = some v) : url env = v := by
  rw [url, h, Option.getD_some]

/-- The address is tested for blanks first, and for how it begins then. -/
theorem readUrl_eq : readUrl env =
    if trim (url env) = "" then .error .blankUrl
    else if IsHttp (url env) then .ok (url env) else .error (.notHttp (url env)) := by
  simp only [IsHttp, ← Bool.or_eq_true]
  rfl

/-- What is read is the address as it is. A blank one does not begin as it has to. -/
theorem readUrl_eq_ok_iff : readUrl env = .ok address ↔ url env = address ∧ IsHttp address := by
  rw [readUrl_eq]
  constructor
  · intro h
    split_ifs at h with hblank hhttp
    obtain rfl := Except.ok.inj h
    exact ⟨rfl, hhttp⟩
  · rintro ⟨rfl, hhttp⟩
    rw [if_neg hhttp.trim_ne_empty, if_pos hhttp]

/-- The address is read before everything that can be at fault. -/
theorem read_of_readUrl_error {e : SettingsError} (h : readUrl env = .error e) :
    read env = .error e := by
  rw [read, h]
  rfl

/-! ### What the settings hang on -/

/-- Two environments give the variables that are read the same values, up to blanks around them. The
address of the task service may differ. -/
def SameTrimmed (env env' : Lookup) : Prop :=
  ∀ name ∈ names, name ≠ "TOPOLOGY_TASK_API_URL" → (env' name).map trim = (env name).map trim

theorem ok_bind {α β : Type} (a : α) (f : α → Except SettingsError β) : .ok a >>= f = f a := rfl

/-- **The settings hang on the address, which becomes a part of them, and on the trimmed values of
seven variables.** -/
theorem read_eq_map (h : SameTrimmed env env') (hurl : readUrl env = .ok address)
    (hurl' : readUrl env' = .ok address') :
    read env' = (fun s => { s with taskApiUrl := address' }) <$> read env := by
  rw [read, read, hurl, hurl',
    readText_congr (h "TOPOLOGY_SNAPSHOT_SOURCE" (by decide) (by decide)),
    readText_congr (h "TOPOLOGY_CURRENT_CLUSTER" (by decide) (by decide)),
    readPositive_congr (h "TOPOLOGY_REFRESH_INTERVAL_MS" (by decide) (by decide)),
    readCount_congr (h "TOPOLOGY_REFRESH_DEBOUNCE_MS" (by decide) (by decide)),
    readPositive_congr (h "TOPOLOGY_REQUEST_TIMEOUT_MS" (by decide) (by decide)),
    readCount_congr (h "TOPOLOGY_FETCH_MAX_RETRIES" (by decide) (by decide)),
    readCount_congr (h "TOPOLOGY_AUTO_EXPAND_THRESHOLD" (by decide) (by decide))]
  simp only [ok_bind, map_bind, Except.map_ok]

theorem readUrl_of_read (hs : read env = .ok s) : readUrl env = .ok s.taskApiUrl := by
  cases hurl : readUrl env with
  | error e =>
    rw [read_of_readUrl_error hurl] at hs
    cases hs
  | ok address =>
    have hsame : read env = (fun s => { s with taskApiUrl := address }) <$> read env :=
      read_eq_map (fun _ _ _ => rfl) hurl hurl
    rw [hs] at hsame
    exact congrArg Except.ok (congrArg taskApiUrl (Except.ok.inj hsame)).symm

theorem read_congr (h : SameTrimmed env env')
    (hurl : env' "TOPOLOGY_TASK_API_URL" = env "TOPOLOGY_TASK_API_URL") : read env' = read env := by
  have hreadUrl : readUrl env' = readUrl env := by rw [readUrl, readUrl, hurl]
  cases haddress : readUrl env with
  | error e =>
    rw [read_of_readUrl_error haddress, read_of_readUrl_error (hreadUrl.trans haddress)]
  | ok address =>
    rw [read_eq_map h haddress (hreadUrl.trans haddress)]
    exact (read_eq_map (fun _ _ _ => rfl) haddress haddress).symm

/-! ### Blanks around values -/

section Padded

variable {front back : String}

theorem sameTrimmed_update (hv : env name = some v) (hfront : AllBlank front)
    (hback : AllBlank back) :
    SameTrimmed env (Function.update env name (some (front ++ v ++ back))) := by
  intro other _ _
  by_cases h : other = name
  · rw [h, Function.update_self, hv, Option.map_some, Option.map_some,
      Text.trim_padded hfront hback]
  · rw [Function.update_of_ne h]

theorem isHttp_padded_iff (hfront : AllBlank front) (hback : AllBlank back) :
    IsHttp (front ++ v ++ back) ↔ front = "" ∧ IsHttp v := by
  rw [IsHttp, Text.startsWith_padded hfront hback (by decide) blank_not_mem_http,
    Text.startsWith_padded hfront hback (by decide) blank_not_mem_https, ← and_or_left]
  exact .rfl

theorem url_update (env : Lookup) (text : String) :
    url (Function.update env "TOPOLOGY_TASK_API_URL" (some text)) = text :=
  url_of_set (Function.update_self ..)

/-- An address with blanks around it is taken with those behind it, or refused. -/
theorem readUrl_update (env : Lookup) (hfront : AllBlank front) (hback : AllBlank back)
    (h : IsHttp v) :
    readUrl (Function.update env "TOPOLOGY_TASK_API_URL" (some (front ++ v ++ back))) =
      if front = "" then .ok (v ++ back) else .error (.notHttp (front ++ v ++ back)) := by
  have hblank : trim (front ++ v ++ back) ≠ "" := by
    rw [Text.trim_padded hfront hback]
    exact h.trim_ne_empty
  rw [readUrl_eq, url_update, if_neg hblank]
  by_cases hempty : front = ""
  · rw [if_pos hempty, if_pos ((isHttp_padded_iff hfront hback).mpr ⟨hempty, h⟩), hempty,
      String.empty_append]
  · rw [if_neg hempty, if_neg fun hhttp => hempty ((isHttp_padded_iff hfront hback).mp hhttp).1]

variable (hv : env "TOPOLOGY_TASK_API_URL" = some v) (hfront : AllBlank front)
  (hback : AllBlank back)

include hv hfront hback

/-- What becomes of settings when blanks are put around the address of the task service. -/
theorem read_update_url (hs : read env = .ok s) :
    read (Function.update env "TOPOLOGY_TASK_API_URL" (some (front ++ v ++ back))) =
      if front = "" then .ok { s with taskApiUrl := v ++ back }
      else .error (.notHttp (front ++ v ++ back)) := by
  have hurl := readUrl_of_read hs
  obtain ⟨haddress, hhttp⟩ := readUrl_eq_ok_iff.mp hurl
  rw [← haddress, url_of_set hv] at hhttp
  have hpadded := readUrl_update env hfront hback hhttp
  split_ifs at hpadded ⊢ with hempty
  · rw [read_eq_map (sameTrimmed_update hv hfront hback) hurl hpadded, hs]
    rfl
  · exact read_of_readUrl_error hpadded

/-- Settings that can be read with blanks around the address can be read without them. -/
theorem read_of_read_update_url
    (hs : read (Function.update env "TOPOLOGY_TASK_API_URL" (some (front ++ v ++ back))) = .ok s) :
    read env = .ok { s with taskApiUrl := v } := by
  have hpadded := readUrl_of_read hs
  obtain ⟨haddress, hhttp⟩ := readUrl_eq_ok_iff.mp hpadded
  -- what was taken begins as it has to, so the address without the blanks does as well
  rw [← haddress, url_update, isHttp_padded_iff hfront hback] at hhttp
  have hsame := sameTrimmed_update hv hfront hback
  rw [read_eq_map (fun other hother hne => (hsame other hother hne).symm) hpadded
    (readUrl_eq_ok_iff.mpr ⟨url_of_set hv, hhttp.2⟩), hs]
  rfl

/-- Blanks around the address are harmless exactly if there are no settings to be read, or none are
added. -/
theorem toOption_read_update_url_iff :
    (read (Function.update env "TOPOLOGY_TASK_API_URL" (some (front ++ v ++ back)))).toOption =
        (read env).toOption ↔
      (read env).toOption = none ∨ front ++ v ++ back = v := by
  cases hs : read env with
  | error e =>
    refine iff_of_true ?_ (.inl rfl)
    cases hs' : read (Function.update env "TOPOLOGY_TASK_API_URL" (some (front ++ v ++ back))) with
    | error e' => rfl
    | ok s' =>
      rw [read_of_read_update_url hv hfront hback hs'] at hs
      cases hs
  | ok s =>
    have hurl : s.taskApiUrl = v :=
      (readUrl_eq_ok_iff.mp (readUrl_of_read hs)).1.symm.trans (url_of_set hv)
    constructor
    · intro hsame
      refine .inr ?_
      cases hs' :
        read (Function.update env "TOPOLOGY_TASK_API_URL" (some (front ++ v ++ back))) with
      | error e =>
        rw [hs'] at hsame
        cases hsame
      | ok s' =>
        -- the same settings have the same address
        rw [hs'] at hsame
        have haddress := (readUrl_eq_ok_iff.mp (readUrl_of_read hs')).1
        rw [url_update, Option.some.inj hsame, hurl] at haddress
        exact haddress
    · rintro (hnone | hsame)
      · cases hnone
      · rw [hsame, ← hv, Function.update_eq_self, hs]

end Padded

/-- **Where blanks around the value of a variable matter.** Let blanks be put in front of the value
of a variable and behind it.

* If it is not the address of the task service, the same settings are read, or the same error is
  reported.
* If it is, the same settings are read exactly if there are none to read or nothing was added. Where
  there are settings, the address is refused with a blank in front, and keeps the blanks behind. -/
theorem read_padded (hv : env name = some v) {front back : String} (hfront : AllBlank front)
    (hback : AllBlank back) :
    let padded := Function.update env name (some (front ++ v ++ back))
    (name ≠ "TOPOLOGY_TASK_API_URL" → read padded = read env) ∧
    (name = "TOPOLOGY_TASK_API_URL" →
      ((read padded).toOption = (read env).toOption ↔
        (read env).toOption = none ∨ front ++ v ++ back = v) ∧
      ∀ s, read env = .ok s → read padded =
        if front = "" then .ok { s with taskApiUrl := v ++ back }
        else .error (.notHttp (front ++ v ++ back))) := by
  intro padded
  refine ⟨fun hname => ?_, ?_⟩
  · exact read_congr (sameTrimmed_update hv hfront hback) (Function.update_of_ne hname.symm _ _)
  · rintro rfl
    exact ⟨toOption_read_update_url_iff hv hfront hback,
      fun s hs => read_update_url hv hfront hback hs⟩

/-- Blanks of any kind around a count are no part of it. -/
theorem read_padded_interval :
    let env : Lookup := Function.update (fun _ => none) "TOPOLOGY_REFRESH_INTERVAL_MS" (some "2500")
    let padded := Function.update env "TOPOLOGY_REFRESH_INTERVAL_MS"
      (some ("\u2003\n" ++ "2500" ++ "\t"))
    env "TOPOLOGY_REFRESH_INTERVAL_MS" = some "2500" ∧ AllBlank "\u2003\n" ∧ AllBlank "\t" ∧
      read padded = read env ∧ (read padded).toOption.map (·.refreshIntervalMs) = some 2500 := by
  intro env padded
  have hv : env "TOPOLOGY_REFRESH_INTERVAL_MS" = some "2500" := rfl
  have hfront : AllBlank "\u2003\n" := by decide
  have hback : AllBlank "\t" := by decide
  exact ⟨hv, hfront, hback, (read_padded hv hfront hback).1 (by decide), by decide +kernel⟩

/-- A blank behind the address of the task service is kept in the settings, and with one in front
there are none. -/
theorem read_padded_fails_address :
    let given (value : String) : Lookup :=
      Function.update (fun _ => none) "TOPOLOGY_TASK_API_URL" (some value)
    let address := "http://tasks.local/api/v1"
    "TOPOLOGY_TASK_API_URL" ∈ names ∧ AllBlank " " ∧
      (read (given address)).toOption.map (·.taskApiUrl) = some address ∧
      (read (given (address ++ " "))).toOption.map (·.taskApiUrl) = some (address ++ " ") ∧
      (read (given (address ++ " "))).toOption ≠ (read (given address)).toOption ∧
      (read (given (" " ++ address))).toOption = none := by
  decide +kernel

end ClusterMap.Settings
