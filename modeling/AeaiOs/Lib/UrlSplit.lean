import AeaiOs.Lib.PyText

/-!
The functions of `urllib.parse` for `str` arguments, with the checks that make
them raise `ValueError`: unbalanced or invalid brackets, ports that are no
port, and host characters that NFKC turns into a delimiter.
-/
namespace UrlSplit
open PyText

/-! UTF-8, strict on encoding and `errors='replace'` on decoding. -/

def encodeChar (c : Char) : List Nat :=
  let n := c.toNat
  if n < 0x80 then [n]
  else if n < 0x800 then [0xC0 + n / 64, 0x80 + n % 64]
  else if n < 0x10000 then [0xE0 + n / 4096, 0x80 + n / 64 % 64, 0x80 + n % 64]
  else [0xF0 + n / 262144, 0x80 + n / 4096 % 64, 0x80 + n / 64 % 64, 0x80 + n % 64]

/-- How many continuation bytes a lead byte announces and which range the
    first of them must lie in. -/
def leadByte (b : Nat) : Option (Nat × Nat × Nat × Nat) :=
  if 0xC2 ≤ b ∧ b ≤ 0xDF then some (1, b - 0xC0, 0x80, 0xBF)
  else if b = 0xE0 then some (2, 0, 0xA0, 0xBF)
  else if b = 0xED then some (2, 13, 0x80, 0x9F)
  else if 0xE1 ≤ b ∧ b ≤ 0xEF then some (2, b - 0xE0, 0x80, 0xBF)
  else if b = 0xF0 then some (3, 0, 0x90, 0xBF)
  else if 0xF1 ≤ b ∧ b ≤ 0xF3 then some (3, b - 0xF0, 0x80, 0xBF)
  else if b = 0xF4 then some (3, 4, 0x80, 0x8F)
  else none

/-- Reads `count` continuation bytes; the accumulated code point and what is
    left, or only what is left at the first byte that does not continue. -/
def continuation : Nat → Nat → Nat → Nat → List Nat → Option Nat × List Nat
  | 0, acc, _, _, bytes => (some acc, bytes)
  | _ + 1, _, _, _, [] => (none, [])
  | count + 1, acc, lo, hi, b :: bytes =>
      if lo ≤ b ∧ b ≤ hi then continuation count (acc * 64 + (b - 0x80)) 0x80 0xBF bytes
      else (none, b :: bytes)

def replacementChar : Char := Char.ofNat 0xFFFD

def decodeBytes : Nat → List Nat → Text
  | 0, _ => []
  | _ + 1, [] => []
  | fuel + 1, b :: bytes =>
      if b < 0x80 then Char.ofNat b :: decodeBytes fuel bytes
      else
        match leadByte b with
        | none => replacementChar :: decodeBytes fuel bytes
        | some (count, acc, lo, hi) =>
            match continuation count acc lo hi bytes with
            | (some n, rest) => Char.ofNat n :: decodeBytes fuel rest
            | (none, rest) => replacementChar :: decodeBytes fuel rest

/-- `bytes.decode('utf-8', 'replace')` -/
def decodeUtf8 (bytes : List Nat) : Text := decodeBytes bytes.length bytes

/-! Percent escapes. -/

def hexValue (n : Nat) : Option Nat :=
  if 48 ≤ n ∧ n ≤ 57 then some (n - 48)
  else if 65 ≤ n ∧ n ≤ 70 then some (n - 55)
  else if 97 ≤ n ∧ n ≤ 102 then some (n - 87)
  else none

/-- `unquote_to_bytes` of a run of ASCII characters. -/
def unquoteToBytes : Text → List Nat
  | '%' :: a :: b :: rest =>
      match hexValue a.toNat, hexValue b.toNat with
      | some hi, some lo => (hi * 16 + lo) :: unquoteToBytes rest
      | _, _ => '%'.toNat :: unquoteToBytes (a :: b :: rest)
  | c :: rest => c.toNat :: unquoteToBytes rest
  | [] => []
termination_by s => s.length

/-- The text cut into maximal runs of ASCII and of other characters. -/
def asciiRuns : Text → List (Bool × Text)
  | [] => []
  | c :: s =>
      match asciiRuns s with
      | (kind, run) :: runs =>
          if isAscii c = kind then (kind, c :: run) :: runs
          else (isAscii c, [c]) :: (kind, run) :: runs
      | [] => [(isAscii c, [c])]

def unquote (s : Text) : Text :=
  if s.contains '%' then
    (asciiRuns s).flatMap fun (ascii, run) =>
      if ascii then decodeUtf8 (unquoteToBytes run) else run
  else s

def unquotePlus (s : Text) : Text := unquote (s.map fun c => if c = '+' then ' ' else c)

def alwaysSafe (n : Nat) : Bool :=
  let c := Char.ofNat n
  n < 128 && (c.isAlphanum || c == '_' || c == '.' || c == '-' || c == '~')

def hexDigit (n : Nat) : Char := if n < 10 then Char.ofNat (48 + n) else Char.ofNat (55 + n)

/-- `quote_plus(s)` with nothing else safe. -/
def quotePlus (s : Text) : Text :=
  s.flatMap fun c =>
    if c = ' ' then ['+']
    else (encodeChar c).flatMap fun n =>
      if alwaysSafe n then [Char.ofNat n] else ['%', hexDigit (n / 16), hexDigit (n % 16)]

/-- `parse_qsl(qs, keep_blank_values=True)` -/
def parseQsl (qs : Text) : List (Text × Text) :=
  if qs.isEmpty then []
  else
    ((splitOn '&' qs).filter fun field => !field.isEmpty).map fun field =>
      let (name, _, value) := partition '=' field
      (unquotePlus name, unquotePlus value)

def urlencode (query : List (Text × Text)) : Text :=
  joinWith ['&'] (query.map fun (name, value) => quotePlus name ++ ['='] ++ quotePlus value)

/-! `ipaddress`, as far as it decides whether a bracketed host is accepted. -/

def isOctet (s : Text) : Bool :=
  !s.isEmpty && s.all (fun c => isAscii c && c.isDigit) && s.length ≤ 3 &&
    !(s != ['0'] && s.head? == some '0') &&
    s.foldl (fun n c => n * 10 + (c.toNat - 48)) 0 ≤ 255

def isIPv4 (s : Text) : Bool :=
  !s.contains '/' && (splitOn '.' s).length == 4 && (splitOn '.' s).all isOctet

def isHextet (s : Text) : Bool := s.all (fun c => (hexValue c.toNat).isSome) && s.length ≤ 4

/-- The colon-separated parts of an IPv6 address, a dotted tail counted as the
    two groups it stands for. -/
def ipv6Parts (s : Text) : Option (List Text) :=
  let parts := splitOn ':' s
  if parts.length < 3 then none
  else
    match parts.getLast? with
    | some last =>
        if last.contains '.' then
          if isIPv4 last then some (parts.dropLast ++ [['0'], ['0']]) else none
        else some parts
    | none => none

def isIPv6Body (s : Text) : Bool :=
  match ipv6Parts s with
  | none => false
  | some parts =>
      let count := parts.length
      let first := (parts.head?.getD []).isEmpty
      let last := (parts.getLast?.getD []).isEmpty
      let inner := (parts.drop 1).dropLast
      let skips := (inner.filter List.isEmpty).length
      if count > 9 || skips > 1 then false
      else if skips = 1 then
        let before := inner.takeWhile (fun part => !part.isEmpty)
        let hi := if first then before.length else before.length + 1
        let lo := count - before.length - 2 - (if last then 1 else 0)
        !(first && hi != 0) && !(last && lo != 0) && hi + lo < 8 &&
          (parts.filter (fun part => !part.isEmpty)).all isHextet
      else count == 8 && !first && !last && parts.all isHextet

def isIPv6 (s : Text) : Bool :=
  let (addr, zoned, scope) := partition '%' s
  !s.contains '/' && !(zoned && (scope.isEmpty || scope.contains '%')) && isIPv6Body addr

/-- `re.match(r"\Av[a-fA-F0-9]+\..+\Z", host)` -/
def isIPvFuture (host : Text) : Bool :=
  match host with
  | 'v' :: s =>
      let digits := s.takeWhile fun c => (hexValue c.toNat).isSome
      match s.drop digits.length with
      | '.' :: rest => !digits.isEmpty && !rest.isEmpty && !rest.contains '\n'
      | _ => false
  | _ => false

def checkBracketedHost (host : Text) : Except String Unit :=
  if host.head? = some 'v' then
    if isIPvFuture host then .ok () else .error "IPvFuture address is invalid"
  else if isIPv4 host then .error "An IPv4 address cannot be in brackets"
  else if isIPv6 host then .ok ()
  else .error "host does not appear to be an IPv4 or IPv6 address"

/-- The characters outside ASCII whose NFKC form contains one of `/?#@:`. -/
def nfkcDelimiter (c : Char) : Bool :=
  [0x2047, 0x2048, 0x2049, 0x2100, 0x2101, 0x2105, 0x2106, 0x2A74, 0xFE13, 0xFE16, 0xFE55,
    0xFE56, 0xFE5F, 0xFE6B, 0xFF03, 0xFF0F, 0xFF1A, 0xFF1F, 0xFF20].contains c.toNat

def checkNetloc (netloc : Text) : Except String Unit :=
  if netloc.any nfkcDelimiter then
    .error "netloc contains invalid characters under NFKC normalization"
  else .ok ()

structure SplitResult where
  scheme : Text
  netloc : Text
  path : Text
  query : Text
  fragment : Text
  deriving DecidableEq

def isSchemeChar (c : Char) : Bool :=
  isAscii c && (c.isAlphanum || c == '+' || c == '-' || c == '.')

/-- Leading C0 controls and spaces dropped, tabs and line ends removed. -/
def cleanUrl (url : Text) : Text :=
  (url.dropWhile fun c => c.toNat ≤ 32).filter fun c => c ≠ '\t' ∧ c ≠ '\r' ∧ c ≠ '\n'

def splitScheme (url : Text) : Text × Text :=
  let (head, found, tail) := partition ':' url
  match head with
  | c :: _ =>
      if found && isAscii c && c.isAlpha && head.all isSchemeChar then
        (head.map Char.toLower, tail)
      else ([], url)
  | [] => ([], url)

/-- `//netloc` taken off the front of what follows the scheme. -/
def splitNetloc (url : Text) : Option (Text × Text) :=
  match url with
  | '/' :: '/' :: rest => some (rest.span fun c => !(c == '/' || c == '?' || c == '#'))
  | _ => none

def urlsplit (url : Text) : Except String SplitResult := do
  let (scheme, rest) := splitScheme (cleanUrl url)
  let (netloc, rest) ←
    match splitNetloc rest with
    | none => pure ([], rest)
    | some (netloc, rest) => do
        let opened := netloc.contains '['
        let closed := netloc.contains ']'
        if opened != closed then throw "Invalid IPv6 URL"
        if opened && closed then
          checkBracketedHost (partition ']' (partition '[' netloc).2.2).1
        pure (netloc, rest)
  let (rest, _, fragment) := partition '#' rest
  let (path, _, query) := partition '?' rest
  checkNetloc netloc
  return ⟨scheme, netloc, path, query, fragment⟩

def usesNetloc : List String :=
  ["", "ftp", "http", "gopher", "nntp", "telnet", "imap", "wais", "file", "mms", "https", "shttp",
    "snews", "prospero", "rtsp", "rtspu", "rsync", "svn", "svn+ssh", "sftp", "nfs", "git",
    "git+ssh", "ws", "wss"]

def urlunsplit (u : SplitResult) : Text :=
  let rooted := u.path.take 2 == ['/', '/']
  let named := !u.scheme.isEmpty && usesNetloc.contains (String.ofList u.scheme)
  let url :=
    if !u.netloc.isEmpty || named || rooted then
      let path := if !u.path.isEmpty && u.path.head? != some '/' then '/' :: u.path else u.path
      ['/', '/'] ++ u.netloc ++ path
    else u.path
  let url := if u.scheme.isEmpty then url else u.scheme ++ [':'] ++ url
  let url := if u.query.isEmpty then url else url ++ ['?'] ++ u.query
  if u.fragment.isEmpty then url else url ++ ['#'] ++ u.fragment

namespace SplitResult

def username (u : SplitResult) : Option Text :=
  let (userinfo, found, _) := rpartition '@' u.netloc
  if found then some (partition ':' userinfo).1 else none

def password (u : SplitResult) : Option Text :=
  let (userinfo, found, _) := rpartition '@' u.netloc
  if found then
    let (_, given, password) := partition ':' userinfo
    if given then some password else none
  else none

def hostinfo (u : SplitResult) : Text × Text :=
  let (_, _, hostinfo) := rpartition '@' u.netloc
  let (_, bracketed, inside) := partition '[' hostinfo
  if bracketed then
    let (hostname, _, port) := partition ']' inside
    (hostname, (partition ':' port).2.2)
  else
    let (hostname, _, port) := partition ':' hostinfo
    (hostname, port)

def hostname [UnicodeDatabase] (u : SplitResult) : Option Text :=
  let host := u.hostinfo.1
  if host.isEmpty then none
  else
    let (name, zoned, zone) := partition '%' host
    some (UnicodeDatabase.lower name ++ (if zoned then ['%'] else []) ++ zone)

/-- `int` of ASCII digits -/
def digitsValue (digits : Text) : Nat := digits.foldl (fun n c => n * 10 + (c.toNat - 48)) 0

def port (u : SplitResult) : Except String (Option Nat) :=
  let digits := u.hostinfo.2
  if digits.isEmpty then .ok none
  else if !digits.all fun c => isAscii c && c.isDigit then
    .error "Port could not be cast to integer value"
  else if 4300 < digits.length then
    .error "Exceeds the limit (4300 digits) for integer string conversion"
  else if digitsValue digits ≤ 65535 then .ok (some (digitsValue digits))
  else .error "Port out of range 0-65535"

/-- What may stand behind the colon of a host. -/
structure IsPort (digits : Text) : Prop where
  numeric : ∀ c ∈ digits, isAscii c = true ∧ c.isDigit = true
  short : digits.length ≤ 4300
  inRange : digitsValue digits ≤ 65535

theorem port_isOk (u : SplitResult) : u.port.isOk = true ↔ IsPort u.hostinfo.2 := by
  unfold port
  generalize u.hostinfo.2 = digits
  simp only
  split_ifs with empty letters long small
  · rw [List.isEmpty_iff] at empty
    rw [empty]
    exact iff_of_true rfl ⟨by simp, by simp, by simp [digitsValue]⟩
  · have bad : ¬ IsPort digits := by
      intro isPort
      have all : (digits.all fun c => isAscii c && c.isDigit) = true := by
        simpa using isPort.numeric
      simp [all] at letters
    exact iff_of_false Bool.false_ne_true bad
  · have bad : ¬ IsPort digits := by
      intro isPort
      have short := isPort.short
      omega
    exact iff_of_false Bool.false_ne_true bad
  · have all : ∀ c ∈ digits, isAscii c = true ∧ c.isDigit = true := by simpa using letters
    exact iff_of_true rfl ⟨all, by omega, small⟩
  · have bad : ¬ IsPort digits := fun isPort => small isPort.inRange
    exact iff_of_false Bool.false_ne_true bad

end SplitResult
end UrlSplit
