import MariaClient.Account.Url
import MariaClient.Proofs.Text.Padded

/-!
# URLs that spell an account

A URL is cut at the first question mark, then at the last `@` before it, and what lies on either
side at the first colon, the first slash and the last colon.  Each part may hold the characters at
which another one is cut, so long as it does not hold those at which it would be cut itself too
early or too late (`Account.Url`).  Then the account of the URL has exactly the parts that it spells
(`Account.ofUrl_text`).
-/

namespace MariaClient

namespace Account

open Text

/-! ## What a URL spells -/

/-- A setting as a URL can spell it. -/
structure Parameter where
  name : String
  value : String
  name_ne_empty : name ≠ ""
  name_ne_socket : name ≠ "socket"
  name_plain : '=' ∉ name.toList ∧ '&' ∉ name.toList
  value_plain : '&' ∉ value.toList

/-- The name of a setting and its value. -/
def Parameter.pair (p : Parameter) : String × String :=
  (p.name, p.value)

/-- The setting in a URL. -/
def Parameter.chars (p : Parameter) : List Char :=
  p.name.toList ++ '=' :: p.value.toList

/-- The setting of a socket in a URL. -/
def socketChars (path : String) : List Char :=
  ['s', 'o', 'c', 'k', 'e', 't'] ++ '=' :: path.toList

/-- What a URL spells in front of its settings. -/
structure Url where
  scheme : String
  user : String
  password : String
  host : String
  port : Nat
  schema : String
  scheme_mem : scheme ∈ schemes
  user_plain : ':' ∉ user.toList ∧ '?' ∉ user.toList
  password_plain : '?' ∉ password.toList
  host_ne_empty : host ≠ ""
  host_plain : ':' ∉ host.toList ∧ '/' ∉ host.toList ∧ '?' ∉ host.toList ∧ '@' ∉ host.toList
  port_lt : port < 65536
  schema_plain : '?' ∉ schema.toList ∧ '@' ∉ schema.toList

namespace Url

/-- The user and the password. -/
def credentials (u : Url) : List Char :=
  u.user.toList ++ ':' :: u.password.toList

/-- The host and the port. -/
def address (u : Url) : List Char :=
  u.host.toList ++ ':' :: digits u.port

/-- The host, the port and the schema. -/
def place (u : Url) : List Char :=
  u.address ++ '/' :: u.schema.toList

/-- The settings behind a question mark, or nothing if there are none. -/
def query : List (List Char) → List Char
  | [] => []
  | s :: ss => '?' :: ['&'].intercalate (s :: ss)

/-- The text of a URL with settings. -/
def text (u : Url) (settings : List (List Char)) : String :=
  String.ofList (u.scheme.toList ++ (u.credentials ++ '@' :: u.place ++ query settings))

/-- The account that a URL with settings spells. -/
def account (u : Url) (parameters : List Parameter) : Account where
  hostName := u.host
  userName := u.user
  password := u.password
  schema := u.schema
  port := u.port
  connectOptions := .ofPairs (parameters.map Parameter.pair)

/-! ## Cutting -/

variable (u : Url)

/-- The digits of a port hold none of the characters at which URLs are cut. -/
theorem not_mem_port {c : Char} (hc : c.isDigit = false) : c ∉ digits u.port := by
  intro h
  rw [isDigit_digits h] at hc
  cases hc

theorem not_mem_front : '?' ∉ u.credentials ++ '@' :: u.place := by
  simp [credentials, place, address, u.user_plain.2, u.password_plain, u.host_plain.2.2.1,
    u.schema_plain.1, u.not_mem_port]

theorem not_mem_place : '@' ∉ u.place := by
  simp [place, address, u.host_plain.2.2.2, u.schema_plain.2, u.not_mem_port]

theorem not_mem_address : '/' ∉ u.address := by
  simp [address, u.host_plain.2.1, u.not_mem_port]

/-- The first question mark begins the settings, if there are any. -/
theorem splitFirst_query {front : List Char} (h : '?' ∉ front) (settings : List (List Char)) :
    (splitFirst '?' (front ++ query settings)).getD (front ++ query settings, []) =
      (front, ['&'].intercalate settings) := by
  cases settings with
  | nil => rw [query, List.append_nil, splitFirst_of_not_mem h]; rfl
  | cons s ss => rw [query, splitFirst_append_of_not_mem h]; rfl

/-- Settings that have characters, but no ampersand, are cut apart again. -/
theorem withParameters_intercalate {settings : List (List Char)}
    (h : ∀ s ∈ settings, s ≠ [] ∧ '&' ∉ s) (a : Account) :
    a.withParameters (['&'].intercalate settings) = settings.foldl withParameter a := by
  have hpieces : (pieces '&' (['&'].intercalate settings)).filter (· ≠ []) = settings := by
    cases settings with
    | nil => rfl
    | cons s ss =>
      rw [pieces_intercalate (List.cons_ne_nil s ss) fun t ht ↦ (h t ht).2, List.filter_eq_self]
      intro t ht
      exact decide_eq_true (h t ht).1
  rw [withParameters, hpieces]

theorem withHostAndPort_address (a : Account) :
    a.withHostAndPort u.address = .ok { a with port := u.port, hostName := u.host } := by
  have hhost : u.host.toList ≠ [] := fun h ↦ u.host_ne_empty (String.toList_eq_nil_iff.1 h)
  rw [withHostAndPort, address, splitLast_append (u.not_mem_port rfl)]
  dsimp only
  rw [unsignedWord?_digits u.port_lt]
  dsimp only
  rw [withHost, if_neg hhost, String.ofList_toList]

/-- Each part is what it was before the settings are looked at. -/
theorem ofAuthority_eq (settings : List (List Char)) :
    ofAuthority (u.credentials ++ '@' :: u.place ++ query settings) =
      .ok ((u.account []).withParameters (['&'].intercalate settings)) := by
  rw [ofAuthority, splitFirst_query u.not_mem_front]
  dsimp only
  -- The password may hold an `@`, so that only the last one ends the credentials.
  rw [splitLast_append u.not_mem_place]
  dsimp only
  rw [place, splitFirst_append_of_not_mem u.not_mem_address, withCredentials, credentials,
    splitFirst_append_of_not_mem u.user_plain.1]
  dsimp only [Option.getD_some]
  rw [withHostAndPort_address]
  simp only [String.ofList_toList]
  rfl

theorem ofUrl_eq (settings : List (List Char)) :
    ofUrl (u.text settings) =
      .ok ((u.account []).withParameters (['&'].intercalate settings)) := by
  have hrest (rest : List Char) :
      (schemes.findSome? fun scheme ↦ after? scheme.toList (u.scheme.toList ++ rest)) =
        some rest := by
    rcases List.mem_cons.1 u.scheme_mem with hscheme | hscheme
    · rw [hscheme, schemes, List.findSome?_cons, after?_append]
    · have hother : after? "mariadb://".toList ("mysql://".toList ++ rest) = none := rfl
      rw [List.mem_singleton.1 hscheme, schemes, List.findSome?_cons, hother]
      dsimp only
      rw [List.findSome?_cons, after?_append]
  rw [ofUrl, text, String.toList_ofList, hrest]
  exact u.ofAuthority_eq settings

end Url

/-! ## Settings -/

theorem withParameter_chars (a : Account) (p : Parameter) :
    a.withParameter p.chars = a.setConnectOption p.name p.value := by
  have hname : p.name.toList ≠ ['s', 'o', 'c', 'k', 'e', 't'] := by
    intro h
    exact p.name_ne_socket (String.toList_inj.1 h)
  rw [withParameter, Parameter.chars, splitFirst_append_of_not_mem p.name_plain.1]
  dsimp only [Option.getD_some]
  rw [if_neg hname, String.ofList_toList, String.ofList_toList]

theorem withParameter_socket (a : Account) (path : String) :
    a.withParameter (socketChars path) = { a with unixSocket := some path } := by
  have hname : '=' ∉ ['s', 'o', 'c', 'k', 'e', 't'] := by decide
  rw [withParameter, socketChars, splitFirst_append_of_not_mem hname]
  dsimp only [Option.getD_some]
  rw [if_pos rfl, String.ofList_toList]

theorem foldl_parameters (parameters : List Parameter) (a : Account) :
    (parameters.map Parameter.chars).foldl withParameter a =
      { a with
        connectOptions := (parameters.map Parameter.pair).foldl (fun d p ↦ d.insert p.1 p.2)
          a.connectOptions } := by
  induction parameters generalizing a with
  | nil => rfl
  | cons p ps ih =>
    rw [List.map_cons, List.foldl_cons, withParameter_chars, ih]
    rfl

/-- The setting of a socket leaves those in front of it and behind it as they are. -/
theorem foldl_socket (before after : List Parameter) (path : String) (a : Account) :
    (before.map Parameter.chars ++ socketChars path :: after.map Parameter.chars).foldl
        withParameter a =
      { ((before ++ after).map Parameter.chars).foldl withParameter a with
        unixSocket := some path } := by
  rw [List.map_append, List.foldl_append, List.foldl_append, List.foldl_cons,
    withParameter_socket, foldl_parameters after, foldl_parameters after]

theorem plain_chars (p : Parameter) : p.chars ≠ [] ∧ '&' ∉ p.chars := by
  constructor
  · exact List.append_ne_nil_of_right_ne_nil _ (List.cons_ne_nil _ _)
  · simp [Parameter.chars, p.name_plain.2, p.value_plain]

theorem plain_socketChars {path : String} (h : '&' ∉ path.toList) :
    socketChars path ≠ [] ∧ '&' ∉ socketChars path := by
  constructor
  · exact List.cons_ne_nil _ _
  · simp [socketChars, h]

/-- The account of a URL has exactly the parts that the URL spells, and what the URL does not name
is as it is by default.  The setting of a socket may stand anywhere among the others and changes
nothing else. -/
theorem ofUrl_text (u : Url) (before after : List Parameter) :
    ofUrl (u.text ((before ++ after).map Parameter.chars)) = .ok (u.account (before ++ after)) ∧
    (∀ path : String, '&' ∉ path.toList →
      ofUrl (u.text (before.map Parameter.chars ++ socketChars path ::
        after.map Parameter.chars)) =
          .ok { u.account (before ++ after) with unixSocket := some path }) ∧
    (((before ++ after).map Parameter.name).Nodup →
      (u.account (before ++ after)).connectOptions.Perm
        ((before ++ after).map Parameter.pair)) := by
  have haccount : ((before ++ after).map Parameter.chars).foldl withParameter (u.account []) =
      u.account (before ++ after) := foldl_parameters _ _
  have hplain (parameters : List Parameter) :
      ∀ s ∈ parameters.map Parameter.chars, s ≠ [] ∧ '&' ∉ s := by
    intro s hs
    obtain ⟨p, -, rfl⟩ := List.mem_map.1 hs
    exact plain_chars p
  refine ⟨?_, ?_, ?_⟩
  · rw [u.ofUrl_eq, Url.withParameters_intercalate (hplain _), haccount]
  · intro path hpath
    have hall : ∀ s ∈ before.map Parameter.chars ++ socketChars path ::
        after.map Parameter.chars, s ≠ [] ∧ '&' ∉ s := by
      rw [List.forall_mem_append, List.forall_mem_cons]
      exact ⟨hplain before, plain_socketChars hpath, hplain after⟩
    rw [u.ofUrl_eq, Url.withParameters_intercalate hall, foldl_socket, haccount]
  · intro hnames
    apply Dictionary.perm_ofPairs
    rw [List.map_map]
    exact hnames

/-- A URL each of whose parts holds the characters at which other parts are cut. -/
def crowdedUrl : Url where
  scheme := "mysql://"
  user := "a@b/c"
  password := ":p@ss/w:rd"
  host := "db"
  port := 65535
  schema := "shop:/x"
  scheme_mem := by decide
  user_plain := by decide
  password_plain := by decide
  host_ne_empty := by decide
  host_plain := by decide
  port_lt := by decide
  schema_plain := by decide

/-- A setting with an empty value. -/
def emptyParameter : Parameter where
  name := "z"
  value := ""
  name_ne_empty := by decide
  name_ne_socket := by decide
  name_plain := by decide
  value_plain := by decide

/-- A setting whose value holds the characters at which URLs are cut. -/
def crowdedParameter : Parameter where
  name := "a"
  value := "b=c?d@e/f:g"
  name_ne_empty := by decide
  name_ne_socket := by decide
  name_plain := by decide
  value_plain := by decide

theorem ofUrl_text_crowded :
    '&' ∉ "/run/x=1.sock?y".toList ∧
      ([emptyParameter, crowdedParameter].map Parameter.name).Nodup ∧
      ofUrl ("mysql://a@b/c::p@ss/w:rd@db:65535/shop:/x" ++
          "?z=&socket=/run/x=1.sock?y&a=b=c?d@e/f:g") =
        .ok
          { hostName := "db"
            userName := "a@b/c"
            password := ":p@ss/w:rd"
            schema := "shop:/x"
            port := 65535
            unixSocket := some "/run/x=1.sock?y"
            connectOptions := [("a", "b=c?d@e/f:g"), ("z", "")] } ∧
      (crowdedUrl.account [emptyParameter, crowdedParameter]).connectOptions.Perm
        [("z", ""), ("a", "b=c?d@e/f:g")] := by
  have hpath : '&' ∉ "/run/x=1.sock?y".toList := by decide
  have hnames : ([emptyParameter, crowdedParameter].map Parameter.name).Nodup := by decide
  have hurl : crowdedUrl.text ([emptyParameter].map Parameter.chars ++
      socketChars "/run/x=1.sock?y" :: [crowdedParameter].map Parameter.chars) =
      "mysql://a@b/c::p@ss/w:rd@db:65535/shop:/x" ++
        "?z=&socket=/run/x=1.sock?y&a=b=c?d@e/f:g" := by decide +kernel
  obtain ⟨-, hsocket, hoptions⟩ := ofUrl_text crowdedUrl [emptyParameter] [crowdedParameter]
  refine ⟨hpath, hnames, ?_, hoptions hnames⟩
  rw [← hurl]
  exact hsocket _ hpath

end Account

end MariaClient
