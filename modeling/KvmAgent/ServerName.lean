import KvmAgent.Bootstrap

/-! The server name a channel asks for by TLS, against the host its endpoint names. -/
namespace KvmAgent
namespace ServerName

open RustText Bootstrap

def delimiters : List Char := [':','/','?','#','@','[',']']

/-- A character of a name: neither a delimiter nor whitespace. -/
def Plain (c : Char) : Prop := isWhitespace c = false ∧ c ∉ delimiters

instance (c : Char) : Decidable (Plain c) := inferInstanceAs (Decidable (_ ∧ _))

/-- The host of an address. Names and IPv4 literals are lists of plain characters; an IPv6
literal has colons between them and stands in brackets. -/
inductive AddrHost
  | name (chars : List Char) (nonempty : chars ≠ []) (plain : ∀ c ∈ chars, Plain c)
  | ipv6 (chars : List Char) (colon : ':' ∈ chars) (plain : ∀ c ∈ chars, c = ':' ∨ Plain c)

def AddrHost.text : AddrHost → List Char
  | .name chars .. => chars
  | .ipv6 chars .. => '['::chars ++ [']']

inductive Scheme
  | unwritten | http | https
  deriving DecidableEq

def Scheme.text : Scheme → String
  | .unwritten => ""
  | .http => "http://"
  | .https => "https://"

/-- An address `[http:// or https://] host [:port] [/path]` between whitespace. -/
structure Address where
  before : List Char
  scheme : Scheme
  host : AddrHost
  port : Option (List Char)
  path : Option (List Char)
  after : List Char
  beforeBlank : ∀ c ∈ before, isWhitespace c = true
  portDigits : ∀ digits ∈ port, digits ≠ [] ∧ ∀ c ∈ digits, c.isDigit = true
  pathGraphic : ∀ chars ∈ path, ∀ c ∈ chars, isWhitespace c = false
  afterBlank : ∀ c ∈ after, isWhitespace c = true

namespace Address

variable (a : Address)

def portText : List Char := (a.port.map (':'::·)).getD []
def pathText : List Char := (a.path.map ('/'::·)).getD []

def rest : List Char := a.host.text ++ a.portText ++ a.pathText

def tail : String := String.ofList a.rest

def text : String := String.ofList (a.before ++ (a.scheme.text.toList ++ a.rest) ++ a.after)

end Address

/-- The host part of a URI without user information: what its authority has before the
port. -/
def hostPart (uri : String) : String :=
  let authority := ((uri.toList.dropWhile (· ≠ ':')).drop 3).takeWhile
    fun c => decide (c ≠ '/' ∧ c ≠ '?' ∧ c ≠ '#')
  String.ofList (if authority.head? = some '[' then authority.takeWhile (· ≠ ']') ++ [']']
    else authority.takeWhile (· ≠ ':'))

/-- The server name is the host of both endpoints of the address. -/
def NamesHost (config : AppConfig) (addr : String) : Prop :=
  serverNameForTarget config addr = hostPart (normalizeMtlsEndpoint addr) ∧
    ∃ endpoint, normalizeBootstrapEndpoint addr = .ok endpoint ∧
      serverNameForTarget config addr = hostPart endpoint

section Lists

variable {α : Type} {p : α → Bool} {l r : List α}

theorem takeWhile_append_stop (hl : ∀ x ∈ l, p x = true) (hr : ∀ x ∈ r.head?, p x = false) :
    (l ++ r).takeWhile p = l := by
  rw [List.takeWhile_append_of_pos hl]
  cases r with
  | nil => simp
  | cons x r => simp [hr x rfl]

theorem trimBy_self {p : Char → Bool} {l : List Char} (hl : ∀ c ∈ l, p c = false) :
    trimBy p l = l := by
  have hdrop : l.dropWhile p = l := by
    rw [List.dropWhile_eq_self_iff]
    intro h
    simp [hl _ (List.getElem_mem h)]
  rw [trimBy,hdrop,List.rdropWhile_eq_self_iff]
  intro h
  simp [hl _ (List.getLast_mem h)]

end Lists

section Texts

theorem isDigit_graphic {c : Char} (h : c.isDigit = true) : isWhitespace c = false := by
  have hrange : 48 ≤ c.toNat ∧ c.toNat ≤ 57 := by
    simpa [Char.isDigit,UInt32.le_iff_toNat_le] using h
  simp only [isWhitespace]
  grind

variable (a : Address)

theorem Plain.ne {c d : Char} (h : Plain c) (hd : d ∈ delimiters) : c ≠ d := by
  rintro rfl
  exact h.2 hd

theorem hostText_forall {P : Char → Prop} (hplain : ∀ c, Plain c → P c) (hcolon : P ':')
    (hopen : P '[') (hclose : P ']') : ∀ c ∈ a.host.text, P c := by
  intro c hc
  cases hhost : a.host with
  | name chars nonempty plain =>
    rw [hhost] at hc
    exact hplain c (plain c hc)
  | ipv6 chars colon plain =>
    rw [hhost] at hc
    simp only [AddrHost.text,List.cons_append,List.mem_cons,List.mem_append,List.not_mem_nil,
      or_false] at hc
    rcases hc with rfl | hc | rfl
    · exact hopen
    · rcases plain c hc with rfl | h
      · exact hcolon
      · exact hplain c h
    · exact hclose

theorem portText_cases : a.portText = [] ∨
    ∃ d digits, a.portText = ':'::d::digits ∧ ∀ c ∈ d::digits, c.isDigit = true := by
  cases hport : a.port with
  | none => exact .inl (by simp [Address.portText,hport])
  | some digits =>
    obtain ⟨hne,hdigits⟩ := a.portDigits digits hport
    obtain ⟨d,digits,rfl⟩ := List.exists_cons_of_ne_nil hne
    exact .inr ⟨d,digits,by simp [Address.portText,hport],hdigits⟩

theorem portText_forall {P : Char → Prop} (hcolon : P ':') (hdigit : ∀ c, c.isDigit = true → P c) :
    ∀ c ∈ a.portText, P c := by
  intro c hc
  rcases portText_cases a with hport | ⟨d,digits,hport,hdigits⟩
  · simp [hport] at hc
  · rw [hport] at hc
    rcases List.mem_cons.mp hc with rfl | hc
    · exact hcolon
    · exact hdigit c (hdigits c hc)

theorem pathText_cases : a.pathText = [] ∨
    ∃ chars, a.pathText = '/'::chars ∧ ∀ c ∈ chars, isWhitespace c = false := by
  cases hpath : a.path with
  | none => exact .inl (by simp [Address.pathText,hpath])
  | some chars => exact .inr ⟨chars,by simp [Address.pathText,hpath],a.pathGraphic chars hpath⟩

theorem rest_graphic : ∀ c ∈ a.rest, isWhitespace c = false := by
  intro c hc
  simp only [Address.rest,List.mem_append] at hc
  rcases hc with (hc | hc) | hc
  · exact hostText_forall a (fun _ h => h.1) (by decide) (by decide) (by decide) c hc
  · exact portText_forall a (by decide) (fun _ => isDigit_graphic) c hc
  · rcases pathText_cases a with hpath | ⟨chars,hpath,hchars⟩
    · simp [hpath] at hc
    · rw [hpath] at hc
      rcases List.mem_cons.mp hc with rfl | hc
      · decide
      · exact hchars c hc

theorem trim_text : trim a.text = String.ofList (a.scheme.text.toList ++ a.rest) := by
  have hcore : ∀ c ∈ a.scheme.text.toList ++ a.rest, isWhitespace c = false := by
    intro c hc
    rcases List.mem_append.mp hc with hc | hc
    · have hscheme : a.scheme.text.toList.all (!isWhitespace ·) = true := by
        cases a.scheme <;> decide
      simpa using List.all_eq_true.mp hscheme c hc
    · exact rest_graphic a c hc
  have htrim : trimChars a.text.toList = trimBy isWhitespace
      (a.before ++ (a.scheme.text.toList ++ a.rest) ++ a.after) := by
    rw [Address.text,String.toList_ofList]
    rfl
  rw [trim,htrim,trimBy_append_right a.afterBlank,trimBy_append_left a.beforeBlank,
    trimBy_self hcore]

theorem authority_chars : ∀ c ∈ a.host.text ++ a.portText, c ≠ '/' ∧ c ≠ '?' ∧ c ≠ '#' := by
  have hplain (c : Char) (h : Plain c) : c ≠ '/' ∧ c ≠ '?' ∧ c ≠ '#' :=
    ⟨h.ne (by decide),h.ne (by decide),h.ne (by decide)⟩
  have hdigit (c : Char) (h : c.isDigit = true) : c ≠ '/' ∧ c ≠ '?' ∧ c ≠ '#' := by
    refine ⟨?_,?_,?_⟩ <;>
      · rintro rfl
        exact absurd h (by decide)
  intro c hc
  rcases List.mem_append.mp hc with hc | hc
  · exact hostText_forall a hplain (by decide) (by decide) (by decide) c hc
  · exact portText_forall a (by decide) hdigit c hc

theorem path_head : ∀ c ∈ a.pathText.head?, c = '/' := by
  rcases pathText_cases a with hpath | ⟨chars,hpath,-⟩ <;> simp [hpath]

theorem authority_slash : a.rest.takeWhile (· ≠ '/') = a.host.text ++ a.portText :=
  takeWhile_append_stop (fun c hc => by simpa using (authority_chars a c hc).1)
    fun c hc => by simp [path_head a c hc]

theorem authority_uri : a.rest.takeWhile (fun c => decide (c ≠ '/' ∧ c ≠ '?' ∧ c ≠ '#')) =
    a.host.text ++ a.portText :=
  takeWhile_append_stop (fun c hc => by simpa using authority_chars a c hc)
    fun c hc => by simp [path_head a c hc]

theorem rest_no_scheme {w more : List Char} (hw : ∀ c ∈ w, c ≠ ':' ∧ c ≠ '/') (hne : w ≠ [])
    (hbracket : w.head? ≠ some '[') : ¬w ++ ':' :: '/' :: more <+: a.rest := by
  rintro ⟨u,hu⟩
  cases hhost : a.host with
  | ipv6 chars colon plain =>
    obtain ⟨c,w,rfl⟩ := List.exists_cons_of_ne_nil hne
    simp only [Address.rest,hhost,AddrHost.text,List.cons_append,List.cons.injEq] at hu
    exact hbracket (by simp [hu.1])
  | name chars nonempty plain =>
    have hdrop : a.rest.dropWhile (fun c => decide (c ≠ ':' ∧ c ≠ '/')) =
        ':' :: '/' :: (more ++ u) := by
      rw [← hu,List.append_assoc,List.dropWhile_append_of_pos fun c hc => by simpa using hw c hc]
      simp
    have hchars : ∀ c ∈ chars, decide (c ≠ ':' ∧ c ≠ '/') = true := by
      intro c hc
      simpa using ⟨(plain c hc).ne (d := ':') (by decide),(plain c hc).ne (d := '/') (by decide)⟩
    rw [Address.rest,hhost,AddrHost.text,List.append_assoc,List.dropWhile_append_of_pos hchars]
      at hdrop
    rcases portText_cases a with hport | ⟨d,digits,hport,hdigits⟩
    · rcases pathText_cases a with hpath | ⟨chars',hpath,-⟩ <;> simp [hport,hpath] at hdrop
    · rw [hport] at hdrop
      simp only [List.cons_append,List.dropWhile_cons] at hdrop
      simp at hdrop
      have hdigit := hdigits d (by simp)
      rw [hdrop.1] at hdigit
      exact absurd hdigit (by decide)

end Texts

section Endpoints

variable (a : Address) {config : AppConfig}

theorem trim_tail : trim a.text = a.scheme.text ++ a.tail := by
  rw [trim_text,String.ofList_append,String.ofList_toList]
  rfl

theorem tail_not_scheme {scheme : String} {w : List Char}
    (hscheme : scheme.toList = w ++ [':','/','/']) (hw : ∀ c ∈ w, c ≠ ':' ∧ c ≠ '/') (hne : w ≠ [])
    (hbracket : w.head? ≠ some '[') : startsWith scheme a.tail = false := by
  refine Bool.eq_false_iff.mpr fun h => ?_
  have hprefix := startsWith_iff.mp h
  rw [hscheme,Address.tail,String.toList_ofList] at hprefix
  exact rest_no_scheme a hw hne hbracket hprefix

theorem tail_not_http : startsWith "http://" a.tail = false :=
  tail_not_scheme a (w := ['h','t','t','p']) (by decide) (by simp) (by decide) (by decide)

theorem tail_not_https : startsWith "https://" a.tail = false :=
  tail_not_scheme a (w := ['h','t','t','p','s']) (by decide) (by simp) (by decide) (by decide)

theorem without_scheme :
    ((stripPrefix "https://" (trim a.text)).or (stripPrefix "http://" (trim a.text))).getD
      (trim a.text) = a.tail := by
  rw [trim_tail]
  cases a.scheme with
  | unwritten =>
    simp [Scheme.text,stripPrefix_none (tail_not_https a),stripPrefix_none (tail_not_http a)]
  | http => simp [Scheme.text,stripPrefix_none (not_https_prefixed a.tail),stripPrefix_append]
  | https => simp [Scheme.text,stripPrefix_append]

theorem mtls_endpoint : normalizeMtlsEndpoint a.text = "https://" ++ a.tail := by
  unfold normalizeMtlsEndpoint
  rw [trim_tail]
  cases a.scheme with
  | unwritten => simp [Scheme.text,tail_not_https,tail_not_http]
  | http =>
    have honce : trimStartMatches "http://" ("http://" ++ a.tail) = a.tail :=
      trimStartMatches_append (by decide) (tail_not_http a)
    simp [Scheme.text,not_https_prefixed,startsWith_append,honce]
  | https => simp [Scheme.text,startsWith_append]

theorem host_ne_nil : a.host.text ≠ [] := by
  cases hhost : a.host with
  | name chars nonempty plain => exact nonempty
  | ipv6 chars colon plain => simp [AddrHost.text]

theorem tail_ne_empty : a.tail ≠ "" := by
  intro h
  have hrest : a.rest = [] := by simpa [Address.tail] using h
  simp [Address.rest,host_ne_nil] at hrest

/-- The bootstrap endpoint has the scheme that is written, and no TLS where none is. -/
theorem bootstrap_endpoint : ∃ scheme, (scheme = "http://" ∨ scheme = "https://") ∧
    normalizeBootstrapEndpoint a.text = .ok (scheme ++ a.tail) := by
  unfold normalizeBootstrapEndpoint
  rw [trim_tail]
  have hne : a.scheme.text ++ a.tail ≠ "" := by simp [tail_ne_empty]
  simp only [hne,if_false]
  cases a.scheme with
  | unwritten => exact ⟨"http://",.inl rfl,by simp [Scheme.text,tail_not_https,tail_not_http]⟩
  | http => exact ⟨"http://",.inl rfl,by simp [Scheme.text,startsWith_append]⟩
  | https => exact ⟨"https://",.inr rfl,by simp [Scheme.text,startsWith_append]⟩

theorem port_head : ∀ c ∈ a.portText.head?, c = ':' := by
  rcases portText_cases a with hport | ⟨d,digits,hport,-⟩ <;> simp [hport]

theorem name_port {chars : List Char} (plain : ∀ c ∈ chars, Plain c) :
    (chars ++ a.portText).takeWhile (· ≠ ':') = chars := by
  refine takeWhile_append_stop (fun c hc => ?_) fun c hc => by simp [port_head a c hc]
  simpa using (plain c hc).ne (d := ':') (by decide)

theorem ipv6_port {chars : List Char} (plain : ∀ c ∈ chars, c = ':' ∨ Plain c) :
    ('['::chars ++ [']'] ++ a.portText).takeWhile (· ≠ ']') = '['::chars := by
  rw [List.append_assoc]
  refine takeWhile_append_stop (fun c hc => ?_) (by simp)
  rcases List.mem_cons.mp hc with rfl | hc
  · decide
  · rcases plain c hc with rfl | h
    · decide
    · simpa using h.ne (d := ']') (by decide)

/-- Both endpoints have the host of the address. -/
theorem hostPart_endpoint {scheme : String} (hscheme : scheme = "http://" ∨ scheme = "https://") :
    hostPart (scheme ++ a.tail) = String.ofList a.host.text := by
  have hauthority : ((scheme ++ a.tail).toList.dropWhile (· ≠ ':')).drop 3 = a.rest := by
    rcases hscheme with rfl | rfl <;> simp [Address.tail]
  rw [hostPart,hauthority,authority_uri]
  cases hhost : a.host with
  | name chars nonempty plain =>
    have hhead : (chars ++ a.portText).head? ≠ some '[' := by
      obtain ⟨c,chars,rfl⟩ := List.exists_cons_of_ne_nil nonempty
      intro h
      have hc : c = '[' := by simpa using h
      exact (plain c (by simp)).2 (by simp [hc,delimiters])
    simp only [AddrHost.text,hhead,if_false,name_port a plain]
  | ipv6 chars colon plain =>
    have hhead : ('['::chars ++ [']'] ++ a.portText).head? = some '[' := rfl
    simp only [AddrHost.text,hhead,if_true,ipv6_port a plain]

theorem serverName_eq (blank : Blank config.agent.serverName) :
    serverNameForTarget config a.text =
      String.ofList ((a.host.text ++ a.portText).takeWhile (· ≠ ':')) := by
  have hname : trim config.agent.serverName = "" := blank
  unfold serverNameForTarget
  simp only [hname,ne_eq,not_true_eq_false,if_false,without_scheme,splitOnce_before]
  rw [splitFirst,splitFirst,Address.tail,String.toList_ofList,String.toList_ofList,authority_slash]

end Endpoints

/-- The host is a DNS name or an IPv4 literal. -/
def AddrHost.IsName : AddrHost → Prop
  | .name .. => True
  | .ipv6 .. => False

theorem namesHost_iff_eq {config : AppConfig} (blank : Blank config.agent.serverName) (a : Address) :
    NamesHost config a.text ↔
      (a.host.text ++ a.portText).takeWhile (· ≠ ':') = a.host.text := by
  obtain ⟨scheme,hscheme,hbootstrap⟩ := bootstrap_endpoint a
  rw [NamesHost,serverName_eq a blank,mtls_endpoint,hostPart_endpoint a (.inr rfl),hbootstrap]
  constructor
  · rintro ⟨h,-⟩
    exact String.ofList_injective h
  · intro h
    exact ⟨by rw [h],_,rfl,by rw [h,hostPart_endpoint a hscheme]⟩

/-- Without an override, the server name is the host dialled exactly for the addresses whose
host is a name or an IPv4 literal. -/
theorem names_host_iff (config : AppConfig) (blank : Blank config.agent.serverName) (a : Address) :
    NamesHost config a.text ↔ a.host.IsName := by
  rw [namesHost_iff_eq blank]
  cases hhost : a.host with
  | name chars nonempty plain => exact iff_of_true (name_port a plain) trivial
  | ipv6 chars colon plain =>
    refine iff_of_false (fun h => ?_) id
    have hcolon : ':' ∈ AddrHost.text (.ipv6 chars colon plain) := by simp [AddrHost.text,colon]
    rw [← h] at hcolon
    simpa using List.mem_takeWhile_imp hcolon

/-- `http://node-1:9443/`, with a line feed behind it. -/
def node : Address where
  before := []
  scheme := .http
  host := .name ['n','o','d','e','-','1'] (by decide) (by simp [Plain,delimiters,isWhitespace])
  port := some ['9','4','4','3']
  path := some []
  after := ['\n']
  beforeBlank := by simp
  portDigits := by simp [Char.isDigit]
  pathGraphic := by simp
  afterBlank := by simp [isWhitespace]

theorem node_names_host : NamesHost AppConfig.defaults "http://node-1:9443/\n" :=
  (names_host_iff AppConfig.defaults (by decide) node).mpr trivial

def loopback : Address where
  before := []
  scheme := .unwritten
  host := .ipv6 [':',':','1'] (by decide) (by simp [Plain,delimiters,isWhitespace])
  port := some ['9','4','4','3']
  path := none
  after := []
  beforeBlank := by simp
  portDigits := by simp [Char.isDigit]
  pathGraphic := by simp
  afterBlank := by simp [isWhitespace]

/-- The server name of a bracketed IPv6 literal is cut at its first colon. -/
theorem loopback_cut : ¬∀ config : AppConfig, Blank config.agent.serverName →
    ∀ a : Address, NamesHost config a.text := by
  intro h
  have hcut := (namesHost_iff_eq (by decide) loopback).mp (h AppConfig.defaults (by decide) loopback)
  exact absurd hcut (by decide)

end ServerName
end KvmAgent
