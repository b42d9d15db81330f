import Cctf.Library.Checks
import Cctf.Library.Multimap
import Cctf.Library.Text
import Cctf.Repos.Traits

/-!
# The instance proxy

`proxy_handler` answers every request to the host of an instance with what the instance answers.

* `HeaderMap`, `toStr`, `extractInstanceId` — headers, and the instance that a host names.
* `proxyCall` — the request to the instance, or the status of an error.
* `proxyResponse` — the answer of the instance, with its headers inserted one by one.
* `proxyHandler` — the handler.
* `Lossless`, `proxy_lossless_iff` — **the answer has the headers of the instance exactly if no
  name comes twice**.
-/

namespace Cctf

open Checks

/-! ## Requests and responses -/

/-- `HeaderMap`: its pairs, as they are iterated over.  Names are in lowercase. -/
abbrev HeaderMap : Type := List (String × List UInt8)

/-- A request. -/
structure RawRequest where
  method : String
  pathAndQuery : Option String
  headers : HeaderMap
  /-- `none` if it cannot be read to the end. -/
  body : Option (List UInt8)

/-- The request to an instance. -/
structure ProxyCall where
  method : String
  targetUrl : String
  headers : HeaderMap
  body : List UInt8
  deriving DecidableEq

/-- A response. -/
structure RawResponse where
  status : ℕ
  headers : HeaderMap
  body : List UInt8
  deriving DecidableEq

/-- `HeaderValue::to_str`: tabs and the printable characters of ASCII. -/
def toStr (value : List UInt8) : Option String :=
  if value.all fun b => b == 9 || (32 ≤ b && b < 127) then
    some (String.ofList (value.map fun b => Char.ofNat b.toNat))
  else none

/-- `extract_instance_id`: the first part of the host, if it is the name of an instance. -/
def extractInstanceId (host : String) : Option String :=
  (Text.splitOn '.' host).head?.filter fun firstPart =>
    "inst-".toList.isPrefixOf firstPart.toList

/-! ## The handler -/

/-- The headers that are not passed on. -/
def droppedHeaders : List String :=
  ["authorization", "cookie", "connection", "keep-alive", "proxy-authorization",
    "proxy-authenticate", "te", "trailer", "transfer-encoding", "upgrade"]

/-- The most that a body may have. -/
def maxProxyBody : ℕ := 10 * 1024 * 1024

section

variable (instanceIp : String → Except RepoError (Option String))
  (send : ProxyCall → Option RawResponse)

/-- What `proxy_handler` asks the instance for; `instanceIp` is `get_instance_ip`. -/
def proxyCall (req : RawRequest) : Except ℕ ProxyCall := do
  let host := ((Multimap.get req.headers "host").bind toStr).getD ""
  let instanceId ← required (extractInstanceId host) 404
  let found ← (instanceIp instanceId).mapError fun _ => 500
  let clusterIp ← required found 404
  let bytes ← required (req.body.filter fun bytes => bytes.length ≤ maxProxyBody) 400
  pure {
    method := req.method
    targetUrl := "http://" ++ clusterIp ++ req.pathAndQuery.getD ""
    headers := droppedHeaders.foldl Multimap.remove req.headers
    body := bytes }

/-- The response that is built from that of the instance. -/
def proxyResponse (res : RawResponse) : RawResponse where
  status := res.status
  headers := res.headers.foldl (fun headers p => Multimap.insert headers p.1 p.2) []
  body := res.body

/-- `proxy_handler`; `send` is the client, with `none` on an error. -/
def proxyHandler (req : RawRequest) : Except ℕ RawResponse := do
  let call ← proxyCall instanceIp req
  let res ← required (send call) 502
  pure (proxyResponse res)

end

/-! ## Headers -/

/-- A response has the values of every header of another one, in their order. -/
def Lossless (res response : RawResponse) : Prop :=
  ∀ name, Multimap.getAll response.headers name = Multimap.getAll res.headers name

/-- **The values of a header that arrive**: the last one. -/
theorem getAll_proxyResponse (res : RawResponse) (name : String) :
    Multimap.getAll (proxyResponse res).headers name =
      (Multimap.getAll res.headers name).getLast?.toList :=
  Multimap.getAll_copy res.headers name

/-- A header that is not passed on does not reach the instance. -/
theorem getAll_foldl_remove {names : List String} {name : String} (h : name ∈ names)
    (headers : HeaderMap) : Multimap.getAll (names.foldl Multimap.remove headers) name = [] := by
  have hkeep : ∀ (ns : List String) (hs : HeaderMap), Multimap.getAll hs name = [] →
      Multimap.getAll (ns.foldl Multimap.remove hs) name = [] := by
    intro ns
    induction ns with
    | nil => exact fun _ hempty => hempty
    | cons n ns ih =>
      intro hs hempty
      refine ih (Multimap.remove hs n) ?_
      by_cases hn : name = n
      · rw [hn, Multimap.getAll_remove_self]
      · rw [Multimap.getAll_remove_of_ne _ hn, hempty]
  induction names generalizing headers with
  | nil => exact absurd h List.not_mem_nil
  | cons n names ih =>
    rcases List.mem_cons.mp h with rfl | hrest
    · exact hkeep names _ (Multimap.getAll_remove_self headers name)
    · exact ih hrest _

/-- **No cookie and no credential of a player reaches an instance.** -/
theorem getAll_proxyCall {instanceIp : String → Except RepoError (Option String)}
    {req : RawRequest} {call : ProxyCall} (h : proxyCall instanceIp req = .ok call)
    {name : String} (hname : name ∈ droppedHeaders) : Multimap.getAll call.headers name = [] := by
  obtain ⟨instanceId, -, hrest⟩ := bind_eq_ok_iff.mp h
  obtain ⟨found, -, hrest⟩ := bind_eq_ok_iff.mp hrest
  obtain ⟨clusterIp, -, hrest⟩ := bind_eq_ok_iff.mp hrest
  obtain ⟨bytes, -, hcall⟩ := bind_eq_ok_iff.mp hrest
  cases hcall
  exact getAll_foldl_remove hname req.headers

/-- **When an instance answers, the response has its headers exactly if no name comes twice.** -/
theorem proxy_lossless_iff {instanceIp : String → Except RepoError (Option String)}
    {send : ProxyCall → Option RawResponse} {req : RawRequest} {call : ProxyCall}
    {res : RawResponse} (hcall : proxyCall instanceIp req = .ok call)
    (hsend : send call = some res) :
    ∃ response, proxyHandler instanceIp send req = .ok response ∧
      (Lossless res response ↔ (res.headers.map Prod.fst).Nodup) := by
  refine ⟨proxyResponse res, ?_, Multimap.copy_lossless_iff res.headers⟩
  rw [proxyHandler, hcall, bind_ok, hsend]
  rfl

/-! ## Two cookies -/

/-- A request to an instance. -/
def instanceRequest : RawRequest where
  method := "GET"
  pathAndQuery := some "/"
  headers := [("host", "inst-1.ctf".toUTF8.toList), ("cookie", "a=1".toUTF8.toList)]
  body := some []

/-- The address of the instance. -/
def oneInstance (id : String) : Except RepoError (Option String) :=
  .ok (if id = "inst-1" then some "10.0.0.1" else none)

/-- What is sent to it. -/
def instanceCall : ProxyCall where
  method := "GET"
  targetUrl := "http://10.0.0.1/"
  headers := [("host", "inst-1.ctf".toUTF8.toList)]
  body := []

/-- An answer with one cookie. -/
def oneCookie : RawResponse := ⟨200, [("set-cookie", [97])], []⟩

/-- An answer with two. -/
def twoCookies : RawResponse := ⟨200, [("set-cookie", [97]), ("set-cookie", [98])], []⟩

theorem proxyCall_instanceRequest : proxyCall oneInstance instanceRequest = .ok instanceCall := by
  decide +kernel

theorem proxy_lossless_iff_oneCookie :
    ∃ response, proxyHandler oneInstance (fun _ => some oneCookie) instanceRequest =
        .ok response ∧
      (Lossless oneCookie response ↔ (oneCookie.headers.map Prod.fst).Nodup) :=
  proxy_lossless_iff proxyCall_instanceRequest rfl

/-- **Of two cookies only the second arrives.** -/
theorem second_cookie_arrives :
    proxyHandler oneInstance (fun _ => some twoCookies) instanceRequest =
        .ok ⟨200, [("set-cookie", [98])], []⟩ ∧
      ¬ Lossless twoCookies ⟨200, [("set-cookie", [98])], []⟩ := by
  refine ⟨by decide +kernel, fun h => ?_⟩
  exact absurd (h "set-cookie") (by decide +kernel)

end Cctf
