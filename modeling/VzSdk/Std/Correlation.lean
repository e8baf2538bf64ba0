/-!
# Matching replies to requests

Tasks put requests to a peer, and the replies come back without naming the task
they answer: a reply is given to the first registered task that accepts its topic. A
`Board` is what such a system has to keep straight: the registered tasks, the
queue of what is still to be done about them, the replies on their way, and the
threads that wait. `Sound` is the invariant under which a waiting thread is
given replies to its own request only. Each change of a board has one lemma
about when it keeps the invariant.
-/

namespace VzSdk.Std

/-- How tasks, the threads they are from and the topics of replies relate. -/
structure Desk (Task Id Thread Topic : Type) where
  id : Task → Id
  thread : Task → Thread
  /-- The order in which a reply is offered to the registered tasks. -/
  before : Id → Id → Prop
  /-- The task takes a reply on this topic. -/
  accepts : Task → Topic → Prop
  /-- The task's own request may be answered on this topic. -/
  expects : Task → Topic → Prop

/-- What is queued: register a task and send its request, remove a task, route a
reply. A reply comes with the task it answers, if it answers one. -/
inductive Notice (Task Id Topic : Type) where
  | ask (task : Task)
  | drop (id : Id)
  | reply (topic : Topic) (origin : Option Id)

/-- What is known of the tasks: who is registered, what is told, and where their replies are. -/
structure Board (Task Id Thread Topic : Type) where
  registered : Task → Prop
  notices : List (Notice Task Id Topic)
  /-- Replies that are neither queued nor routed, or that a request sent will cause. -/
  flying : Topic → Option Id → Prop
  /-- The task that a thread waits for. -/
  waiting : Thread → Option Task
  /-- The origins of the replies a thread was given. -/
  inbox : Thread → Option Id → Prop

namespace Board

variable {Task Id Thread Topic : Type}
variable (desk : Desk Task Id Thread Topic) (board : Board Task Id Thread Topic)

/-- The task is registered, or is going to be. -/
def Known (task : Task) : Prop := board.registered task ∨ .ask task ∈ board.notices

/-- A reply to `origin` on `topic` may come, to be routed after the notices `ahead`. -/
inductive OnItsWay : List (Notice Task Id Topic) → Topic → Option Id → Prop where
  | asked {ahead behind task topic} (queued : board.notices = ahead ++ .ask task :: behind)
      (expected : desk.expects task topic) : OnItsWay ahead topic (some (desk.id task))
  | posted {ahead behind topic origin}
      (queued : board.notices = ahead ++ .reply topic origin :: behind) :
      OnItsWay ahead topic origin
  | flying {topic origin} (flies : board.flying topic origin) :
      OnItsWay board.notices topic origin

/-- The task will be registered when a reply on `topic` is routed after the notices `ahead`,
and accepts it. -/
structure Heeds (ahead : List (Notice Task Id Topic)) (topic : Topic) (task : Task) : Prop where
  registered : board.registered task ∨ .ask task ∈ ahead
  accepts : desk.accepts task topic
  stays : .drop (desk.id task) ∉ ahead

/-- The reply will be given to this task: none that accepts it comes before. -/
structure Takes (ahead : List (Notice Task Id Topic)) (topic : Topic) (task : Task) : Prop where
  heeds : board.Heeds desk ahead topic task
  first : ∀ other, board.Heeds desk ahead topic other → ¬desk.before (desk.id other) (desk.id task)

/-- A reply that is queued now will be given, if to anybody, to the task that it answers. -/
def Answers (topic : Topic) (origin : Option Id) : Prop :=
  ∀ task, board.Takes desk board.notices topic task → some (desk.id task) = origin

/-- What holds of a board at any time. -/
structure Sound : Prop where
  /-- A task is not asked for after its removal. -/
  ordered : board.notices.Pairwise fun earlier later =>
    ∀ task, later = .ask task → earlier ≠ .drop (desk.id task)
  /-- No two tasks have one id. -/
  distinct : ∀ {first second}, board.Known first → board.Known second →
    desk.id first = desk.id second → first = second
  /-- Whoever will be given a queued reply has asked for it. -/
  claimed : ∀ {ahead behind topic origin}, board.notices = ahead ++ .reply topic origin :: behind →
    ∀ {task}, board.Takes desk ahead topic task → some (desk.id task) = origin
  /-- A reply to another task of a waiting thread finds that task removed. -/
  exclusive : ∀ {thread request}, board.waiting thread = some request →
    ∀ {ahead topic origin}, board.OnItsWay desk ahead topic origin →
      ∀ {task}, board.Known task → desk.thread task = thread → some (desk.id task) = origin →
        desk.id task = desk.id request ∨ .drop (desk.id task) ∈ ahead
  /-- A waiting thread has been given replies to its own request only. -/
  delivered : ∀ {thread request}, board.waiting thread = some request →
    ∀ {origin}, board.inbox thread origin → origin = some (desk.id request)

/-- The board `smaller` has lost some of `larger`, but none of its tasks and its notices. -/
structure Covers (larger smaller : Board Task Id Thread Topic) : Prop where
  registered : ∀ {task}, smaller.registered task ↔ larger.registered task
  notices : smaller.notices = larger.notices
  flying : ∀ {topic origin}, smaller.flying topic origin → larger.flying topic origin
  waiting : ∀ {thread task}, smaller.waiting thread = some task → larger.waiting thread = some task
  inbox : ∀ {thread origin}, smaller.inbox thread origin → larger.inbox thread origin

variable {desk board}
variable {larger smaller : Board Task Id Thread Topic}

/-- A board covers itself. -/
theorem Covers.refl : Covers board board :=
  ⟨.rfl, rfl, fun holds => holds, fun holds => holds, fun holds => holds⟩

/-- What covers a covering board covers what that covers. -/
theorem Covers.trans {middle : Board Task Id Thread Topic} (first : Covers larger middle)
    (second : Covers middle smaller) : Covers larger smaller where
  registered := second.registered.trans first.registered
  notices := second.notices.trans first.notices
  flying holds := first.flying (second.flying holds)
  waiting holds := first.waiting (second.waiting holds)
  inbox holds := first.inbox (second.inbox holds)

/-- What the smaller board knows the larger one knows. -/
theorem Covers.known (covers : Covers larger smaller) {task : Task} (known : smaller.Known task) :
    larger.Known task := by
  rcases known with registered | queued
  · exact .inl (covers.registered.mp registered)
  · exact .inr (covers.notices ▸ queued)

/-- A reply on its way is on its way where no more is told. -/
theorem OnItsWay.mono {ahead : List (Notice Task Id Topic)} {topic : Topic} {origin : Option Id}
    (coming : smaller.OnItsWay desk ahead topic origin) (notices : smaller.notices = larger.notices)
    (flying : ∀ {topic origin}, smaller.flying topic origin → larger.flying topic origin) :
    larger.OnItsWay desk ahead topic origin := by
  cases coming with
  | asked queued expected => exact .asked (notices ▸ queued) expected
  | posted queued => exact .posted (notices ▸ queued)
  | flying flies =>
      rw [notices]
      exact .flying (flying flies)

/-- Nothing is on its way when no request and no reply is queued and no reply flies. -/
theorem not_onItsWay (asks : ∀ {task topic}, .ask task ∈ board.notices → ¬desk.expects task topic)
    (replies : ∀ {topic origin}, .reply topic origin ∉ board.notices)
    (flying : ∀ {topic origin}, ¬board.flying topic origin) {ahead : List (Notice Task Id Topic)}
    {topic : Topic} {origin : Option Id} : ¬board.OnItsWay desk ahead topic origin := by
  intro way
  cases way with
  | asked queued expected => exact asks (by simp [queued]) expected
  | posted queued =>
      have member : .reply topic origin ∈ board.notices := by simp [queued]
      exact replies member
  | flying flies => exact flying flies

/-- Where the registered tasks are the same, so is who heeds a reply. -/
theorem heeds_congr {next : Board Task Id Thread Topic}
    (same : ∀ task, next.registered task ↔ board.registered task)
    (ahead : List (Notice Task Id Topic)) (topic : Topic) (task : Task) :
    next.Heeds desk ahead topic task ↔ board.Heeds desk ahead topic task :=
  ⟨fun heeds => ⟨heeds.registered.imp_left (same task).mp, heeds.accepts, heeds.stays⟩,
    fun heeds => ⟨heeds.registered.imp_left (same task).mpr, heeds.accepts, heeds.stays⟩⟩

/-- A reply is given to the same task where the same tasks heed it. -/
theorem takes_congr {next : Board Task Id Thread Topic} {ahead before : List (Notice Task Id Topic)}
    {topic : Topic}
    (same : ∀ task, next.Heeds desk ahead topic task ↔ board.Heeds desk before topic task)
    {task : Task} (takes : next.Takes desk ahead topic task) : board.Takes desk before topic task :=
  ⟨(same task).mp takes.heeds, fun other heeds => takes.first other ((same other).mpr heeds)⟩

/-- In particular where the registered tasks are the same. -/
theorem takes_of_registered {next : Board Task Id Thread Topic}
    {ahead : List (Notice Task Id Topic)} {topic : Topic} {task : Task}
    (takes : next.Takes desk ahead topic task)
    (same : ∀ task, next.registered task ↔ board.registered task) :
    board.Takes desk ahead topic task :=
  takes_congr (heeds_congr same ahead topic) takes

/-- What every change keeps: a board stays sound when it knows no new task, when the queued
replies are heeded by the same tasks, when what is on its way was so behind the same removals,
and when nobody new waits. -/
theorem Sound.transfer {next : Board Task Id Thread Topic} (sound : board.Sound desk)
    (ordered : next.notices.Pairwise fun earlier later =>
      ∀ task, later = .ask task → earlier ≠ .drop (desk.id task))
    (known : ∀ {task}, next.Known task → board.Known task)
    (heeded : ∀ {ahead behind topic origin}, next.notices = ahead ++ .reply topic origin :: behind →
      ∃ before rest, board.notices = before ++ .reply topic origin :: rest ∧
        ∀ task, next.Heeds desk ahead topic task ↔ board.Heeds desk before topic task)
    (coming : ∀ {ahead topic origin}, next.OnItsWay desk ahead topic origin →
      ∃ before, board.OnItsWay desk before topic origin ∧ ∀ {task}, next.Known task →
        .drop (desk.id task) ∈ before → .drop (desk.id task) ∈ ahead)
    (waiting : ∀ {thread task}, next.waiting thread = some task → board.waiting thread = some task)
    (delivered : ∀ {thread request}, next.waiting thread = some request →
      ∀ {origin}, next.inbox thread origin → origin = some (desk.id request)) :
    next.Sound desk where
  ordered := ordered
  distinct first second sameId := sound.distinct (known first) (known second) sameId
  claimed queued _ takes := by
    obtain ⟨before, rest, wasQueued, same⟩ := heeded queued
    exact sound.claimed wasQueued (takes_congr same takes)
  exclusive waits _ _ _ way _ isKnown fromThread asked := by
    obtain ⟨before, old, removed⟩ := coming way
    exact (sound.exclusive (waiting waits) old (known isKnown) fromThread asked).imp_right
      (removed isKnown)
  delivered := delivered

/-- Losing replies and waiting threads keeps a board sound. -/
theorem Sound.of_covers (sound : larger.Sound desk) (covers : Covers larger smaller) :
    smaller.Sound desk :=
  sound.transfer (covers.notices ▸ sound.ordered) covers.known
    (fun queued => ⟨_, _, covers.notices ▸ queued, heeds_congr (fun _ => covers.registered) _ _⟩)
    (fun way => ⟨_, way.mono covers.notices covers.flying, fun _ removed => removed⟩) covers.waiting
    fun waits _ given => sound.delivered (covers.waiting waits) (covers.inbox given)

/-! ## Queueing a notice -/

/-- Put a notice at the end of the queue. -/
def post (board : Board Task Id Thread Topic) (notice : Notice Task Id Topic) :
    Board Task Id Thread Topic :=
  { board with notices := board.notices ++ [notice] }

/-- Boards that are told the same cover each other as before. -/
theorem Covers.post (covers : Covers larger smaller) (notice : Notice Task Id Topic) :
    Covers (larger.post notice) (smaller.post notice) :=
  ⟨covers.registered, congrArg (· ++ [notice]) covers.notices, covers.flying, covers.waiting,
    covers.inbox⟩

/-- A reply that stands in the queue behind a new notice stood there before, or is the notice. -/
theorem reply_post {notice : Notice Task Id Topic} {ahead behind : List (Notice Task Id Topic)}
    {topic : Topic} {origin : Option Id}
    (queued : (board.post notice).notices = ahead ++ .reply topic origin :: behind) :
    (∃ rest, board.notices = ahead ++ .reply topic origin :: rest) ∨
      (ahead = board.notices ∧ notice = .reply topic origin) := by
  rcases List.eq_nil_or_concat behind with rfl | ⟨rest, last, rfl⟩
  · obtain ⟨same, atEnd⟩ := List.append_inj' queued rfl
    exact .inr ⟨same.symm, List.singleton_inj.mp atEnd⟩
  · rw [List.concat_eq_append, ← List.cons_append, ← List.append_assoc] at queued
    exact .inl ⟨rest, (List.append_inj' queued rfl).1⟩

/-- What is on its way behind a new notice was on its way, behind no less of the
old ones, or is what the notice is about. -/
theorem onItsWay_post {notice : Notice Task Id Topic} {ahead : List (Notice Task Id Topic)}
    {topic : Topic} {origin : Option Id}
    (coming : (board.post notice).OnItsWay desk ahead topic origin) :
    (∃ before, board.OnItsWay desk before topic origin ∧ before ⊆ ahead) ∨
      (ahead = board.notices ∧ ((∃ task, notice = .ask task ∧ desk.expects task topic ∧
        origin = some (desk.id task)) ∨ notice = .reply topic origin)) := by
  have split {entry : Notice Task Id Topic} {behind : List (Notice Task Id Topic)}
      (queued : (board.post notice).notices = ahead ++ entry :: behind) :
      (∃ rest, board.notices = ahead ++ entry :: rest) ∨ (ahead = board.notices ∧ notice = entry) := by
    rcases List.eq_nil_or_concat behind with rfl | ⟨rest, last, rfl⟩
    · obtain ⟨same, atEnd⟩ := List.append_inj' queued rfl
      exact .inr ⟨same.symm, List.singleton_inj.mp atEnd⟩
    · rw [List.concat_eq_append, ← List.cons_append, ← List.append_assoc] at queued
      exact .inl ⟨rest, (List.append_inj' queued rfl).1⟩
  cases coming with
  | asked queued expected =>
      rcases split queued with ⟨rest, before⟩ | ⟨same, rfl⟩
      · exact .inl ⟨ahead, .asked before expected, fun _ member => member⟩
      · exact .inr ⟨same, .inl ⟨_, rfl, expected, rfl⟩⟩
  | posted queued =>
      rcases split queued with ⟨rest, before⟩ | ⟨same, rfl⟩
      · exact .inl ⟨ahead, .posted before, fun _ member => member⟩
      · exact .inr ⟨same, .inr rfl⟩
  | flying flies =>
      exact .inl ⟨board.notices, .flying flies, List.subset_append_left _ _⟩

/-- What is known after a notice was known or is asked for. -/
theorem known_post {notice : Notice Task Id Topic} {task : Task}
    (known : (board.post notice).Known task) : board.Known task ∨ notice = .ask task := by
  rcases known with registered | queued
  · exact .inl (.inl registered)
  · rcases List.mem_append.mp queued with before | atEnd
    · exact .inl (.inr before)
    · exact .inr (List.mem_singleton.mp atEnd).symm

/-- Who is given the queued replies does not depend on what is queued behind them; a reply
that is queued now is given to the task that it answers. -/
theorem claimed_post (sound : board.Sound desk) {notice : Notice Task Id Topic}
    (answers : ∀ topic origin, notice = .reply topic origin → board.Answers desk topic origin)
    {ahead behind : List (Notice Task Id Topic)} {topic : Topic} {origin : Option Id}
    (queued : (board.post notice).notices = ahead ++ .reply topic origin :: behind) {task : Task}
    (takes : (board.post notice).Takes desk ahead topic task) : some (desk.id task) = origin := by
  have takes : board.Takes desk ahead topic task :=
    takes_of_registered takes fun _ => .rfl
  rcases reply_post queued with ⟨rest, was⟩ | ⟨rfl, isReply⟩
  · exact sound.claimed was takes
  · exact answers topic origin isReply task takes

/-- A notice that asks for nothing keeps a board sound, when any reply it brings was on its
way and comes when the task that it answers will be given it. -/
theorem Sound.post (sound : board.Sound desk) {notice : Notice Task Id Topic}
    (noAsk : ∀ task, notice ≠ .ask task)
    (flies : ∀ topic origin, notice = .reply topic origin → board.flying topic origin)
    (answers : ∀ topic origin, notice = .reply topic origin → board.Answers desk topic origin) :
    (board.post notice).Sound desk := by
  have knew {task : Task} (known : (board.post notice).Known task) : board.Known task :=
    (known_post known).resolve_right (noAsk task)
  refine ⟨?_, ?_, fun queued _ takes => claimed_post sound answers queued takes, ?_, sound.delivered⟩
  · refine List.pairwise_append.mpr ⟨sound.ordered, List.pairwise_singleton _ _, ?_⟩
    intro earlier _ later member task isAsk
    exact absurd ((List.mem_singleton.mp member).symm.trans isAsk) (noAsk task)
  · exact fun first second sameId => sound.distinct (knew first) (knew second) sameId
  · intro thread request waits ahead topic origin way task known fromThread asked
    rcases onItsWay_post way with ⟨before, old, subset⟩ | ⟨rfl, ⟨other, isAsk, _⟩ | isReply⟩
    · exact (sound.exclusive waits old (knew known) fromThread asked).imp_right
        fun removed => subset removed
    · exact absurd isAsk (noAsk other)
    · exact sound.exclusive waits (.flying (flies topic origin isReply)) (knew known) fromThread asked

/-- The id of a new task is not in use: no task has it, and no removal of it is queued. -/
structure Unused (desk : Desk Task Id Thread Topic) (board : Board Task Id Thread Topic)
    (task : Task) : Prop where
  fresh : ∀ other, board.Known other → desk.id other ≠ desk.id task
  notDropped : .drop (desk.id task) ∉ board.notices

/-- A thread that does not wait may ask for a task with an id of its own. -/
theorem Sound.ask (sound : board.Sound desk) {task : Task} (unused : board.Unused desk task)
    (idle : board.waiting (desk.thread task) = none) :
    (board.post (.ask task)).Sound desk := by
  refine ⟨?_, ?_, fun queued _ takes => claimed_post sound (by simp) queued takes, ?_,
    sound.delivered⟩
  · refine List.pairwise_append.mpr ⟨sound.ordered, List.pairwise_singleton _ _, ?_⟩
    intro earlier queued later member other isAsk dropped
    obtain rfl := List.mem_singleton.mp member
    cases isAsk
    exact unused.notDropped (dropped ▸ queued)
  · intro first second knownFirst knownSecond sameId
    rcases known_post knownFirst with was | isFirst
    · rcases known_post knownSecond with wasToo | isSecond
      · exact sound.distinct was wasToo sameId
      · cases isSecond
        exact absurd sameId (unused.fresh first was)
    · cases isFirst
      rcases known_post knownSecond with wasToo | isSecond
      · exact absurd sameId.symm (unused.fresh second wasToo)
      · exact Notice.ask.inj isSecond
  · intro thread request waits ahead topic origin way other known fromThread asked
    have notNew : task ≠ other := by
      rintro rfl
      rw [← fromThread] at waits
      exact absurd (idle.symm.trans waits) (by simp)
    have known := (known_post known).resolve_right fun isAsk => notNew (Notice.ask.inj isAsk)
    rcases onItsWay_post way with ⟨before, old, subset⟩ | ⟨_, ⟨_, isAsk, _, rfl⟩ | isReply⟩
    · exact (sound.exclusive waits old known fromThread asked).imp_right
        fun removed => subset removed
    · cases isAsk
      exact absurd (Option.some.inj asked) (unused.fresh other known)
    · cases isReply

section Waiting

variable [DecidableEq Thread]

/-- A thread waits for its task. -/
def wait (board : Board Task Id Thread Topic) (thread : Thread) (task : Task) :
    Board Task Id Thread Topic :=
  { board with waiting := fun other => if other = thread then some task else board.waiting other }

/-- A thread may wait when no reply to another task of it can be given to it any more,
and none was. -/
theorem Sound.wait (sound : board.Sound desk) {thread : Thread} {task : Task}
    (undelivered : ∀ {ahead topic origin}, board.OnItsWay desk ahead topic origin →
      ∀ {other}, board.Known other → desk.thread other = thread → some (desk.id other) = origin →
        desk.id other = desk.id task ∨ .drop (desk.id other) ∈ ahead)
    (emptied : ∀ origin, ¬board.inbox thread origin) : (board.wait thread task).Sound desk := by
  have coming {ahead topic origin} (way : (board.wait thread task).OnItsWay desk ahead topic origin) :
      board.OnItsWay desk ahead topic origin := way.mono rfl fun flies => flies
  refine ⟨sound.ordered, sound.distinct, fun queued _ takes => sound.claimed queued ?_, ?_, ?_⟩
  · exact takes_of_registered takes fun _ => .rfl
  · intro waiter request waits ahead topic origin way other known fromThread isOrigin
    simp only [Board.wait] at waits
    split at waits
    · next same =>
        cases waits
        exact undelivered (coming way) known (fromThread.trans same) isOrigin
    · exact sound.exclusive waits (coming way) known fromThread isOrigin
  · intro waiter request waits origin given
    simp only [Board.wait] at waits
    split at waits
    · next same => exact absurd (same ▸ given) (emptied origin)
    · exact sound.delivered waits given

/-- Nothing is left over of a thread's earlier tasks. -/
structure Settled (desk : Desk Task Id Thread Topic) (board : Board Task Id Thread Topic)
    (thread : Thread) : Prop where
  undelivered : ∀ ahead topic origin, board.OnItsWay desk ahead topic origin →
    ∀ other, board.Known other → desk.thread other = thread → some (desk.id other) = origin →
      .drop (desk.id other) ∈ ahead
  emptied : ∀ origin, ¬board.inbox thread origin

/-- A thread of which nothing is left over asks, and waits for the reply. -/
theorem Sound.askAndWait (sound : board.Sound desk) {task : Task}
    (unused : board.Unused desk task) (idle : board.waiting (desk.thread task) = none)
    (settled : board.Settled desk (desk.thread task)) :
    ((board.post (.ask task)).wait (desk.thread task) task).Sound desk := by
  refine (sound.ask unused idle).wait ?_ settled.emptied
  intro ahead topic origin way other known fromThread isOrigin
  rcases known_post known with known | isAsk
  · rcases onItsWay_post way with ⟨before, old, subset⟩ | ⟨_, ⟨_, isAsk, _, rfl⟩ | isReply⟩
    · exact .inr (subset (settled.undelivered before topic origin old other known fromThread
        isOrigin))
    · cases isAsk
      exact .inl (Option.some.inj isOrigin)
    · cases isReply
  · cases isAsk
    exact .inl rfl

end Waiting

/-! ## Handling the first notice -/

section First

variable {first : Notice Task Id Topic} {rest : List (Notice Task Id Topic)}

/-- The first notice is taken from the queue. -/
def discard (board : Board Task Id Thread Topic) (rest : List (Notice Task Id Topic)) :
    Board Task Id Thread Topic :=
  { board with notices := rest }

/-- What is on its way behind the rest of the queue is so behind all of it. -/
theorem onItsWay_discard {ahead : List (Notice Task Id Topic)} {topic : Topic} {origin : Option Id}
    (queue : board.notices = first :: rest)
    (way : (board.discard rest).OnItsWay desk ahead topic origin) :
    board.OnItsWay desk (first :: ahead) topic origin := by
  have split {entry behind} (queued : (board.discard rest).notices = ahead ++ entry :: behind) :
      board.notices = first :: ahead ++ entry :: behind := by
    rw [queue, List.cons_append]
    exact congrArg _ queued
  cases way with
  | asked queued expected => exact .asked (split queued) expected
  | posted queued => exact .posted (split queued)
  | flying flies =>
      change board.OnItsWay desk (first :: rest) topic origin
      exact queue ▸ .flying flies

/-- A notice other than a removal may be discarded, if it does not ask for a task that accepts
replies. -/
theorem Sound.discard (sound : board.Sound desk) (queue : board.notices = first :: rest)
    (noDrop : ∀ id, first ≠ .drop id)
    (mute : ∀ task topic, first = .ask task → ¬desk.accepts task topic) :
    (board.discard rest).Sound desk := by
  refine sound.transfer ?_ ?_ ?_ ?_ (fun waits => waits) sound.delivered
  · have ordered := sound.ordered
    rw [queue] at ordered
    exact (List.pairwise_cons.mp ordered).2
  · rintro task (registered | queued)
    · exact .inl registered
    · exact .inr (queue ▸ List.mem_cons_of_mem _ queued)
  · intro ahead behind topic origin queued
    refine ⟨first :: ahead, behind, queue.trans (congrArg _ queued), fun task => ?_⟩
    constructor
    · rintro ⟨registered, accepts, stays⟩
      refine ⟨registered.imp_right (List.mem_cons_of_mem _), accepts, ?_⟩
      intro removed
      exact stays ((List.mem_cons.mp removed).resolve_left fun isFirst => noDrop _ isFirst.symm)
    · rintro ⟨registered, accepts, stays⟩
      refine ⟨registered.imp_right fun asked => ?_, accepts, fun removed =>
        stays (List.mem_cons_of_mem _ removed)⟩
      exact (List.mem_cons.mp asked).resolve_left fun isFirst =>
        mute task topic isFirst.symm accepts
  · intro ahead topic origin way
    refine ⟨_, onItsWay_discard queue way, ?_⟩
    intro task _ removed
    exact (List.mem_cons.mp removed).resolve_left fun isFirst => noDrop _ isFirst.symm

/-- A task is registered and its request is sent. -/
def register (desk : Desk Task Id Thread Topic) (board : Board Task Id Thread Topic) (task : Task)
    (rest : List (Notice Task Id Topic)) : Board Task Id Thread Topic :=
  { board with
    registered := fun other => other = task ∨ board.registered other
    notices := rest
    flying := fun topic origin => board.flying topic origin ∨
      (desk.expects task topic ∧ origin = some (desk.id task)) }

/-- Registering the task that is asked for keeps a board sound. -/
theorem Sound.register {task : Task} (sound : board.Sound desk)
    (queue : board.notices = .ask task :: rest) : (board.register desk task rest).Sound desk := by
  refine sound.transfer ?_ ?_ ?_ ?_ (fun waits => waits) sound.delivered
  · have ordered := sound.ordered
    rw [queue] at ordered
    exact (List.pairwise_cons.mp ordered).2
  · rintro other ((rfl | registered) | queued)
    · exact .inr (queue ▸ List.mem_cons_self)
    · exact .inl registered
    · exact .inr (queue ▸ List.mem_cons_of_mem _ queued)
  · intro ahead behind topic origin queued
    refine ⟨.ask task :: ahead, behind, queue.trans (congrArg _ queued), fun other => ?_⟩
    -- the task was asked for ahead of the reply, and is registered now
    have same : (board.register desk task rest).registered other ∨ .ask other ∈ ahead ↔
        board.registered other ∨ .ask other ∈ .ask task :: ahead := by
      simp only [Board.register, List.mem_cons, Notice.ask.injEq]
      rw [or_comm (a := other = task), or_assoc]
    constructor
    · rintro ⟨registered, accepts, stays⟩
      exact ⟨same.mp registered, accepts, by simpa using stays⟩
    · rintro ⟨registered, accepts, stays⟩
      exact ⟨same.mpr registered, accepts, by simpa using stays⟩
  · intro ahead topic origin way
    have behind (old : (board.discard rest).OnItsWay desk ahead topic origin) :
        ∃ before, board.OnItsWay desk before topic origin ∧ ∀ {other},
          (board.register desk task rest).Known other → .drop (desk.id other) ∈ before →
            .drop (desk.id other) ∈ ahead := by
      refine ⟨_, onItsWay_discard queue old, ?_⟩
      intro other _ removed
      exact (List.mem_cons.mp removed).resolve_left (by simp)
    cases way with
    | asked queued expected => exact behind (.asked queued expected)
    | posted queued => exact behind (.posted queued)
    | flying flies =>
        rcases flies with flies | ⟨expected, rfl⟩
        · exact behind (.flying flies)
        · exact ⟨[], .asked queue expected, by simp⟩

/-- The task with this id is removed. -/
def unregister (desk : Desk Task Id Thread Topic) (board : Board Task Id Thread Topic) (id : Id)
    (rest : List (Notice Task Id Topic)) : Board Task Id Thread Topic :=
  { board with
    registered := fun other => board.registered other ∧ desk.id other ≠ id
    notices := rest }

/-- Taking out the task that is dropped keeps a board sound. -/
theorem Sound.unregister {id : Id} (sound : board.Sound desk)
    (queue : board.notices = .drop id :: rest) : (board.unregister desk id rest).Sound desk := by
  have ordered := sound.ordered
  rw [queue] at ordered
  obtain ⟨notAsked, ordered⟩ := List.pairwise_cons.mp ordered
  have others {task} (known : (board.unregister desk id rest).Known task) : desk.id task ≠ id := by
    rcases known with ⟨_, differ⟩ | queued
    · exact differ
    · rintro rfl
      exact notAsked (.ask task) queued task rfl rfl
  refine sound.transfer ordered ?_ ?_ ?_ (fun waits => waits) sound.delivered
  · rintro task (⟨registered, _⟩ | queued)
    · exact .inl registered
    · exact .inr (queue ▸ List.mem_cons_of_mem _ queued)
  · intro ahead behind topic origin queued
    refine ⟨.drop id :: ahead, behind, queue.trans (congrArg _ queued), fun task => ?_⟩
    constructor
    · rintro ⟨registered, accepts, stays⟩
      have other : desk.id task ≠ id := by
        rcases registered with ⟨_, differ⟩ | asked
        · exact differ
        · exact others (.inr (by
            rw [show (board.unregister desk id rest).notices = rest from rfl] at queued ⊢
            rw [queued]
            exact List.mem_append_left _ asked))
      refine ⟨registered.imp And.left (List.mem_cons_of_mem _), accepts, ?_⟩
      intro removed
      rcases List.mem_cons.mp removed with isFirst | later
      · exact other (Notice.drop.inj isFirst)
      · exact stays later
    · rintro ⟨registered, accepts, stays⟩
      have other : desk.id task ≠ id := by
        rintro rfl
        exact stays List.mem_cons_self
      refine ⟨?_, accepts, fun removed => stays (List.mem_cons_of_mem _ removed)⟩
      rcases registered with registered | asked
      · exact .inl ⟨registered, other⟩
      · exact .inr ((List.mem_cons.mp asked).resolve_left (by simp))
  · intro ahead topic origin way
    refine ⟨_, onItsWay_discard queue (way.mono rfl fun flies => flies), ?_⟩
    intro task known removed
    exact (List.mem_cons.mp removed).resolve_left fun isFirst => others known (Notice.drop.inj isFirst)

/-- A reply is given to a thread. -/
def deliver (board : Board Task Id Thread Topic) (thread : Thread) (origin : Option Id)
    (rest : List (Notice Task Id Topic)) : Board Task Id Thread Topic :=
  { board with
    notices := rest
    inbox := fun other source => board.inbox other source ∨ (other = thread ∧ source = origin) }

/-- A reply may be given to the thread of the task that takes it, and to a thread that waits
for nothing. -/
theorem Sound.deliver {thread : Thread} {topic : Topic} {origin : Option Id}
    (sound : board.Sound desk) (queue : board.notices = .reply topic origin :: rest)
    (taken : (∃ task, board.Takes desk [] topic task ∧ desk.thread task = thread) ∨
      board.waiting thread = none) : (board.deliver thread origin rest).Sound desk := by
  have discarded := sound.discard queue (by simp) (by simp)
  refine discarded.transfer discarded.ordered (fun known => known) ?_ ?_ (fun waits => waits) ?_
  · intro ahead behind topic origin queued
    refine ⟨ahead, behind, queued, heeds_congr ?_ ahead topic⟩
    exact fun _ => .rfl
  · intro ahead topic origin way
    exact ⟨ahead, way.mono rfl fun flies => flies, fun _ removed => removed⟩
  · rintro other request waits source (given | ⟨rfl, rfl⟩)
    · exact sound.delivered waits given
    · rcases taken with ⟨task, takes, fromThread⟩ | idle
      · have way : board.OnItsWay desk [] topic source := .posted queue
        have registered := takes.heeds.registered.resolve_right (by simp)
        have own : some (desk.id task) = source := sound.claimed queue takes
        have same := (sound.exclusive waits way (.inl registered) fromThread own).resolve_right
          (by simp)
        rw [← own, same]
      · exact absurd (idle.symm.trans waits) (by simp)

end First

/-! ## Replies nobody asked for -/

/-- The peer sends something it was not asked for. -/
def launch (board : Board Task Id Thread Topic) (topic : Topic) : Board Task Id Thread Topic :=
  { board with flying := fun other origin => board.flying other origin ∨ (other = topic ∧ origin = none) }

/-- An unasked reply is nobody's until it is queued. -/
theorem Sound.launch (sound : board.Sound desk) (topic : Topic) :
    (board.launch topic).Sound desk := by
  refine ⟨sound.ordered, sound.distinct, fun queued _ takes => sound.claimed queued ?_, ?_,
    sound.delivered⟩
  · exact takes_of_registered takes fun _ => .rfl
  · intro thread request waits ahead other origin way task known fromThread isOrigin
    cases way with
    | asked queued expected => exact sound.exclusive waits (.asked queued expected) known fromThread isOrigin
    | posted queued => exact sound.exclusive waits (.posted queued) known fromThread isOrigin
    | flying flies =>
        rcases flies with flies | ⟨rfl, rfl⟩
        · exact sound.exclusive waits (.flying flies) known fromThread isOrigin
        · cases isOrigin

end Board

/-! ## Tasks of which one is open at a time -/

namespace Notice

variable {Task Id Topic : Type} (alone : Task → Prop) (id : Task → Id)

/-- While a task that must be alone is open, no other one is asked for. -/
def Serialised : (Id → Prop) → List (Notice Task Id Topic) → Prop
  | _, [] => True
  | isOpen, .ask task :: notices =>
      (alone task → ∀ other, ¬isOpen other) ∧
        Serialised (fun other => isOpen other ∨ (alone task ∧ other = id task)) notices
  | isOpen, .drop gone :: notices => Serialised (fun other => isOpen other ∧ other ≠ gone) notices
  | isOpen, .reply _ _ :: notices => Serialised isOpen notices

/-- The tasks that must be alone and are open after the notices. -/
def leftOpen : (Id → Prop) → List (Notice Task Id Topic) → Id → Prop
  | isOpen, [] => isOpen
  | isOpen, .ask task :: notices =>
      leftOpen (fun other => isOpen other ∨ (alone task ∧ other = id task)) notices
  | isOpen, .drop gone :: notices => leftOpen (fun other => isOpen other ∧ other ≠ gone) notices
  | isOpen, .reply _ _ :: notices => leftOpen isOpen notices

variable {alone id} {isOpen fewer : Id → Prop}

/-- Notices are serialised part by part. -/
theorem serialised_append (notices more : List (Notice Task Id Topic)) :
    Serialised alone id isOpen (notices ++ more) ↔ Serialised alone id isOpen notices ∧
      Serialised alone id (leftOpen alone id isOpen notices) more := by
  induction notices generalizing isOpen with
  | nil => simp [Serialised, leftOpen]
  | cons notice notices inductionHypothesis =>
      cases notice <;> simp only [List.cons_append, Serialised, leftOpen, inductionHypothesis, and_assoc]

/-- What is left open is left open by the later part. -/
theorem leftOpen_append (notices more : List (Notice Task Id Topic)) :
    leftOpen alone id isOpen (notices ++ more) =
      leftOpen alone id (leftOpen alone id isOpen notices) more := by
  induction notices generalizing isOpen with
  | nil => rfl
  | cons notice notices inductionHypothesis =>
      cases notice <;> simp only [List.cons_append, leftOpen, inductionHypothesis]

/-- Notices that are serialised with more tasks open are so with fewer. -/
theorem serialised_mono {notices : List (Notice Task Id Topic)}
    (subset : ∀ other, fewer other → isOpen other) (serialised : Serialised alone id isOpen notices) :
    Serialised alone id fewer notices := by
  induction notices generalizing isOpen fewer with
  | nil => trivial
  | cons notice notices inductionHypothesis =>
      cases notice with
      | ask task =>
          exact ⟨fun isAlone other stays => serialised.1 isAlone other (subset other stays),
            inductionHypothesis (fun other => Or.imp_left (subset other)) serialised.2⟩
      | drop gone =>
          exact inductionHypothesis (fun other => And.imp_left (subset other)) serialised
      | reply topic origin => exact inductionHypothesis subset serialised

/-- With more tasks open more are left open. -/
theorem leftOpen_mono {notices : List (Notice Task Id Topic)} {other : Id}
    (subset : ∀ other, fewer other → isOpen other) (left : leftOpen alone id fewer notices other) :
    leftOpen alone id isOpen notices other := by
  induction notices generalizing isOpen fewer with
  | nil => exact subset other left
  | cons notice notices inductionHypothesis =>
      cases notice with
      | ask task => exact inductionHypothesis (fun other => Or.imp_left (subset other)) left
      | drop gone => exact inductionHypothesis (fun other => And.imp_left (subset other)) left
      | reply topic origin => exact inductionHypothesis subset left

/-- Where no task that must be alone is asked for, none is in the way. -/
theorem serialised_of_noAsk {notices : List (Notice Task Id Topic)}
    (noAsk : ∀ task, .ask task ∈ notices → ¬alone task) : Serialised alone id isOpen notices := by
  induction notices generalizing isOpen with
  | nil => trivial
  | cons notice notices inductionHypothesis =>
      have rest : ∀ task, .ask task ∈ notices → ¬alone task := fun task member =>
        noAsk task (List.mem_cons_of_mem _ member)
      cases notice with
      | ask task =>
          exact ⟨fun isAlone => absurd isAlone (noAsk task List.mem_cons_self),
            inductionHypothesis rest⟩
      | drop gone => exact inductionHypothesis rest
      | reply topic origin => exact inductionHypothesis rest

/-- What no notice drops stays open. -/
theorem leftOpen_of_noDrop {notices : List (Notice Task Id Topic)} {other : Id}
    (opened : isOpen other) (noDrop : .drop other ∉ notices) :
    leftOpen alone id isOpen notices other := by
  induction notices generalizing isOpen with
  | nil => exact opened
  | cons notice notices inductionHypothesis =>
      have rest : .drop other ∉ notices := fun member => noDrop (List.mem_cons_of_mem _ member)
      cases notice with
      | ask task => exact inductionHypothesis (.inl opened) rest
      | drop gone =>
          refine inductionHypothesis ⟨opened, ?_⟩ rest
          rintro rfl
          exact noDrop List.mem_cons_self
      | reply topic origin => exact inductionHypothesis opened rest

/-- What is left open was open before or is asked for. -/
theorem open_of_leftOpen {notices : List (Notice Task Id Topic)} {other : Id}
    (left : leftOpen alone id isOpen notices other) :
    isOpen other ∨ ∃ task, .ask task ∈ notices ∧ alone task ∧ other = id task := by
  induction notices generalizing isOpen with
  | nil => exact .inl left
  | cons notice notices inductionHypothesis =>
      have later : (∃ task, .ask task ∈ notices ∧ alone task ∧ other = id task) →
          ∃ task, .ask task ∈ notice :: notices ∧ alone task ∧ other = id task :=
        fun ⟨task, member, isTask⟩ => ⟨task, List.mem_cons_of_mem _ member, isTask⟩
      cases notice with
      | ask task =>
          rcases inductionHypothesis left with (isFirst | isNew) | isLater
          · exact .inl isFirst
          · exact .inr ⟨task, List.mem_cons_self, isNew⟩
          · exact .inr (later isLater)
      | drop gone =>
          rcases inductionHypothesis left with isFirst | isLater
          · exact .inl isFirst.1
          · exact .inr (later isLater)
      | reply topic origin =>
          rcases inductionHypothesis left with isFirst | isLater
          · exact .inl isFirst
          · exact .inr (later isLater)

end Notice

end VzSdk.Std
