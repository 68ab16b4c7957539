import Switchboard.Catalogue.Tool

namespace Switchboard.ArgForm

def echo : ArgForm :=
  ⟨"EchoToolInput", ["text", "uppercase"], .record (.record "EchoToolInput") fun m =>
    (fun t u => [("text", .str t), ("uppercase", .bool u)])
      <$> Reader.required m "text" .nonempty
      <*> Reader.defaulted m "uppercase" .flag false⟩

def wordCount : ArgForm :=
  ⟨"WordCountToolInput", ["text"], .record (.record "WordCountToolInput") fun m =>
    (fun t => [("text", .str t)]) <$> Reader.required m "text" .text⟩

def faultCall : ArgForm :=
  ⟨"FaultCallToolInput", ["fail", "message"], .record (.record "FaultCallToolInput") fun m =>
    (fun f s => [("fail", .bool f), ("message", .str s)])
      <$> Reader.defaulted m "fail" .flag false
      <*> Reader.defaulted m "message" .text "ok"⟩

def faultHealth : ArgForm :=
  ⟨"FaultHealthToolInput", ["healthy"], .record (.record "FaultHealthToolInput") fun m =>
    (fun h => [("healthy", .bool h)]) <$> Reader.required m "healthy" .flag⟩

def all : List ArgForm := [echo, wordCount, faultCall, faultHealth]

def ofModel? (model : String) : Option ArgForm := all.find? (fun f => f.model = model)

end Switchboard.ArgForm
