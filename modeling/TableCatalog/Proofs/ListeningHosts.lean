import TableCatalog.Proofs.AddressText
import TableCatalog.Proofs.HostSettings
import TableCatalog.Proofs.SavedConfig

/-! Hosts that the daemon listens at. The port follows the host behind a colon, which an address of
32 bits allows; one of 128 bits has colons of its own and has to stand in brackets. -/

namespace TableCatalog

namespace Daemon

open Network Numeral

/-- No digit can be taken for a dash or an equals sign. -/
theorem plain_of_digit {text : String} {base : Nat} {c : Char} {rest : List Char}
    (spelled : text.toList = c :: rest) (digit : isDigit base c = true) : Plain text := by
  refine ⟨c, rest, spelled, ?_, ?_⟩
  · rintro rfl
    cases digit
  · rintro rfl
    cases digit

theorem plain_ipv4 (address : Ipv4) : Plain address.text := by
  obtain ⟨c, front, first⟩ := List.exists_cons_of_ne_nil (digits_ne_nil 10 address.a.toNat)
  have digit : isDigit 10 c = true :=
    isDigit_of_mem_digits (by decide) (by decide) (first ▸ List.mem_cons_self)
  have start : ∃ rest, address.text.toList = c :: rest :=
    ⟨_, by rw [Ipv4.text, String.toList_ofList, Ipv4.chars_eq, decimal, first, List.cons_append]⟩
  obtain ⟨rest, spelled⟩ := start
  exact plain_of_digit spelled digit

theorem plain_ipv6 (address : Ipv6) : Plain address.text := by
  obtain ⟨front, more, start, hex⟩ := leadsToColon_chars address
  have spelled : address.text.toList = front ++ ':' :: more := by
    rw [Ipv6.text, String.toList_ofList, start]
  cases front with
  | nil => exact ⟨':', more, spelled, by decide, by decide⟩
  | cons c front => exact plain_of_digit spelled (hex c List.mem_cons_self)

/-- An address of 128 bits in brackets. -/
def bracketed (address : Ipv6) : String := "[" ++ address.text ++ "]"

theorem plain_bracketed (address : Ipv6) : Plain (bracketed address) :=
  ⟨'[', address.chars ++ [']'], by simp [bracketed, Ipv6.text], by decide, by decide⟩

/-- The daemon listens at the address that the text of host and port is read as. -/
theorem listenAt_of_parse? {config : Config} {address : SocketAddress}
    (parsed : SocketAddress.parse? config.socketAddress = some address) :
    config.listenAt = .ok address := by
  unfold Config.listenAt
  rw [parsed]

/-- A host by which the daemon comes to listen at an address, whatever the port. -/
structure Serves (host : String) (address : IpAddress) : Prop where
  taken : TakesHost host
  reached (config : Config) :
    config.host = host → config.listenAt = .ok { ip := address, port := config.port }

/-- A host that is taken, but keeps the daemon from listening. -/
structure Refused (host : String) : Prop where
  taken : TakesHost host
  unreached (config : Config) : config.host = host → config.listenAt = .error .address

theorem serves_ipv4 (address : Ipv4) : Serves address.text (.v4 address) where
  taken := (plain_ipv4 address).takesHost
  reached config host := by
    apply listenAt_of_parse?
    rw [Config.socketAddress, host]
    exact parse?_ipv4 address config.port

theorem refused_ipv6 (address : Ipv6) : Refused address.text where
  taken := (plain_ipv6 address).takesHost
  unreached config host := by
    have refused : SocketAddress.parse? config.socketAddress = none := by
      rw [Config.socketAddress, host]
      exact parse?_ipv6 address config.port
    unfold Config.listenAt
    rw [refused]

theorem serves_bracketed (address : Ipv6) : Serves (bracketed address) (.v6 address) where
  taken := (plain_bracketed address).takesHost
  reached config host := by
    apply listenAt_of_parse?
    rw [Config.socketAddress, host]
    exact parse?_bracketed address config.port

/-- A host that is refused serves no address. -/
theorem Refused.not_serves {host : String} (refused : Refused host) (address : IpAddress) :
    ¬ Serves host address := by
  intro serves
  have unreached := refused.unreached { host } rfl
  rw [serves.reached { host } rfl] at unreached
  cases unreached

/-- An address is a host as it stands exactly if it is of 32 bits. One
of 128 bits is taken and then refused, since the text made of it and
the port is the address of no socket; in brackets it is a host. -/
theorem hosts_by_family (address : IpAddress) :
    (Serves address.text address ↔ ∃ small, address = .v4 small) ∧
    ∀ large, address = .v6 large → Refused address.text ∧ Serves (bracketed large) address := by
  cases address with
  | v4 address =>
    refine ⟨⟨fun _ => ⟨address, rfl⟩, fun _ => serves_ipv4 address⟩, fun large other => ?_⟩
    cases other
  | v6 address =>
    have refused := refused_ipv6 address
    refine ⟨⟨fun serves => absurd serves (refused.not_serves _), ?_⟩, ?_⟩
    · rintro ⟨small, other⟩
      cases other
    · rintro large same
      cases same
      exact ⟨refused, serves_bracketed address⟩

/-- The addresses that a host has for itself. -/
def localhost : Ipv4 := { a := 127, b := 0, c := 0, d := 1 }

def loopback : Ipv6 := { groups := [0, 0, 0, 0, 0, 0, 0, 1], size := rfl }

theorem localhost_text : localhost.text = "127.0.0.1" := by decide +kernel

theorem loopback_text : loopback.text = "::1" := by decide +kernel

/-- In memory, at this host. -/
def inMemoryAt (host : String) : Config := { host, memoryMode := true }

/-- A disk with a file of settings. -/
def settingsDisk (text : String) : Disk := { files := [(["settings.toml"], text)] }

theorem settingsDisk_read (text : String) :
    (settingsDisk text).read? "settings.toml" = some text := by
  have names : Disk.names "settings.toml" = ["settings.toml"] := by decide +kernel
  have start : (settingsDisk text).start "settings.toml" = [] := by
    have inside : "settings.toml".startsWith "/" = false := by decide +kernel
    rw [Disk.start, inside]
    rfl
  have possible : Disk.areImpossible ["settings.toml"] = false := by
    have name : "settings.toml".utf8ByteSize ≤ Disk.nameLimit := by decide
    have path : "settings.toml".utf8ByteSize ≤ Disk.pathLimit := by decide
    simp [Disk.areImpossible, Disk.isImpossible, name, path]
  have place : (settingsDisk text).place? "settings.toml" = some ["settings.toml"] := by
    rw [Disk.place?, names, possible, start]
    rfl
  rw [Disk.read?, place]
  rfl

theorem hosts_by_family_loopback :
    (RunsWith {} [("HOST", "elsewhere")] ["--memory", "-H", "127.0.0.1"] (inMemoryAt "127.0.0.1") ∧
      (inMemoryAt "127.0.0.1").listenAt = .ok { ip := .v4 localhost, port := 10010 }) ∧
    (RunsWith {} [("HOST", "::1")] ["--memory"] (inMemoryAt "::1") ∧
      (inMemoryAt "::1").listenAt = .error .address) ∧
    ∃ text config, ({ host := "[::1]", port := 9 } : Config).toToml = some text ∧
      RunsWith (settingsDisk text) [] ["-c", "settings.toml", "--port=80"] config ∧
      config.listenAt = .ok { ip := .v6 loopback, port := config.port } := by
  have small : Serves localhost.text (.v4 localhost) :=
    (hosts_by_family (.v4 localhost)).1.2 ⟨localhost, rfl⟩
  obtain ⟨bare, inBrackets⟩ : Refused loopback.text ∧ Serves (bracketed loopback) (.v6 loopback) :=
    (hosts_by_family (.v6 loopback)).2 loopback rfl
  have silent (environment : CommandLine.Environment) (other : withoutHost environment = []) :
      Hostless (withoutHost environment) ["--memory"] := by
    rw [other]
    exact ⟨_, rfl, by decide⟩
  have runs (environment : CommandLine.Environment) (other : withoutHost environment = []) :
      RunsWith {} (withoutHost environment) ["--memory"] { memoryMode := true } := by
    rw [other]
    exact ⟨{ memory := true }, by decide +kernel, by decide +kernel⟩
  refine ⟨⟨?_, ?_⟩, ⟨?_, ?_⟩, ?_⟩
  · have taken := small.taken.argument (by decide) (silent [("HOST", "elsewhere")] rfl)
      (runs _ rfl) ["-H", localhost.text]
    rw [localhost_text] at taken
    exact taken (by decide)
  · exact small.reached (inMemoryAt "127.0.0.1") localhost_text.symm
  · have taken := bare.taken
    rw [loopback_text] at taken
    exact taken.environment rfl (silent [("HOST", "::1")] rfl) (runs _ rfl)
  · exact bare.unreached (inMemoryAt "::1") loopback_text.symm
  · have host : "[::1]" = bracketed loopback := by
      rw [bracketed, loopback_text]
      rfl
    have saves : ∃ text, ({ host := "[::1]", port := 9 } : Config).toToml = some text :=
      ⟨_, if_pos (by decide)⟩
    obtain ⟨text, written⟩ := saves
    have understood : Config.ofToml? text = some { host := "[::1]", port := 9 } := by
      rw [Config.ofToml?, Config.parse?_toToml written, Option.bind_some, Config.ofEntries_saved]
    have parsed : parse [] ["-c", "settings.toml", "--port=80"] =
      .ok { config := some "settings.toml", port := some 80 } := by decide +kernel
    obtain ⟨config, runs, same⟩ :=
      inBrackets.taken.file ⟨_, rfl, by decide⟩ parsed rfl (settingsDisk_read text) understood host
    exact ⟨text, config, written, runs, inBrackets.reached config same⟩

theorem loopback_refused :
    loopback.text = "::1" ∧ RunsWith {} [] ["--memory", "-H", "::1"] (inMemoryAt "::1") ∧
    (inMemoryAt "::1").socketAddress = "::1:10010" ∧ (inMemoryAt "::1").listenAt = .error .address ∧
    ¬ Serves loopback.text (.v6 loopback) := by
  refine ⟨loopback_text, ⟨{ host := some "::1", memory := true }, ?_, ?_⟩,
    ?_, ?_, (refused_ipv6 loopback).not_serves _⟩ <;> decide +kernel

end Daemon
end TableCatalog
