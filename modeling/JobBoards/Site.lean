import JobBoards.Text.Basic
namespace JobBoards

inductive Site where
  | web3Career | useWeb3 | cryptoJobsList | solana | substrate | near
  deriving DecidableEq, Repr

namespace Site

def all : List Site := [.web3Career, .useWeb3, .cryptoJobsList, .solana, .substrate, .near]

def name : Site → Text
  | .web3Career => "web3.career"
  | .useWeb3 => "useweb3.xyz"
  | .cryptoJobsList => "cryptojobslist.com"
  | .solana => "jobs.solana.com"
  | .substrate => "careers.substrate.io"
  | .near => "careers.near.org"

def ofName? (s : Text) : Option Site := all.find? fun site => site.name == s

inductive Layout where
  | rows | panels | items | cards
  deriving DecidableEq, Repr

def layout : Site → Layout
  | .web3Career => .rows
  | .useWeb3 => .panels
  | .cryptoJobsList => .items
  | .solana | .substrate | .near => .cards

def Layout.reader : Layout → Text
  | .rows => "Web3CareerFetcher"
  | .panels => "UseWeb3Fetcher"
  | .items => "CryptoJobsListFetcher"
  | .cards => "GetroBoardFetcher"

def engineeringQuery : Text :=
  "filter=eyJqb2JfZnVuY3Rpb25zIjpbIlNvZnR3YXJlIEVuZ2luZWVyaW5nIl19"

def address (site : Site) : Text :=
  match site with
  | .web3Career => "https://web3.career"
  | .useWeb3 => "https://useweb3.xyz/jobs"
  | .cryptoJobsList => "https://cryptojobslist.com"
  | .solana | .substrate | .near =>
      "https://".toList ++ site.name ++ "/jobs?".toList ++ engineeringQuery

theorem mem_all (site : Site) : site ∈ all := by
  cases site <;> decide

@[simp] theorem ofName?_name (site : Site) : ofName? site.name = some site := by
  cases site <;> decide

end Site
end JobBoards
