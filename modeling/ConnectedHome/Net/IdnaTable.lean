import ConnectedHome.Text.CodeTable
/-!
# Tables of internationalized host names

* `mappingRows` is the mapping table of UTS 46, edition 17.0: from each row's first code point
  on, characters are valid (`V`), mapped to the row's characters (`M`), deviations kept as they
  are (`D`), ignored (`I`) or disallowed (`X`), up to the next row;
* `validRanges`, `joinerRanges` and `contextRanges` are the characters IDNA 2008 allows in a
  label outright (PVALID), allows next to the right neighbours (CONTEXTJ: the joiners) and
  allows in the right context (CONTEXTO);
* the script tables and `joiningTypes` (`C`, `D`, `L`, `R`, `T`, by index of
  `joiningTypeNames`) are what the contextual rules look at.
-/
namespace ConnectedHome.Net

open Text

/-- A row of the mapping table: from `start` on, characters have `status`, and a mapped
character becomes `replacement`. -/
structure MappingRow where
  start : Nat
  status : Char
  replacement : List Nat
deriving Inhabited

/-- Reads the mapping rows: `start:status` or `start:status:replacement`, in hexadecimal. -/
def readMappingRows (s : String) : Array MappingRow :=
  (tableEntries s).toArray.map fun piece =>
    match piece.splitOn ":" with
    | [a, st] => ⟨hexValue a.toList, st.front, []⟩
    | [a, st, r] => ⟨hexValue a.toList, st.front, (r.splitOn ".").map (hexValue ·.toList)⟩
    | _ => ⟨0, 'X', []⟩

/-- The mapping table of UTS 46. -/
def mappingRows : Array MappingRow := readMappingRows
  "0:V,41:M:61,42:M:62,43:M:63,44:M:64,45:M:65,46:M:66,47:M:67,48:M:68,49:M:69,4a:M:6a,4b:M:6b,
  4c:M:6c,4d:M:6d,4e:M:6e,4f:M:6f,50:M:70,51:M:71,52:M:72,53:M:73,54:M:74,55:M:75,56:M:76,57:M:77,
  58:M:78,59:M:79,5a:M:7a,5b:V,80:X,a0:M:20,a1:V,a8:M:20.308,a9:V,aa:M:61,ab:V,ad:I,ae:V,
  af:M:20.304,b0:V,b2:M:32,b3:M:33,b4:M:20.301,b5:M:3bc,b6:V,b8:M:20.327,b9:M:31,ba:M:6f,bb:V,
  bc:M:31.2044.34,bd:M:31.2044.32,be:M:33.2044.34,bf:V,c0:M:e0,c1:M:e1,c2:M:e2,c3:M:e3,c4:M:e4,
  c5:M:e5,c6:M:e6,c7:M:e7,c8:M:e8,c9:M:e9,ca:M:ea,cb:M:eb,cc:M:ec,cd:M:ed,ce:M:ee,cf:M:ef,d0:M:f0,
  d1:M:f1,d2:M:f2,d3:M:f3,d4:M:f4,d5:M:f5,d6:M:f6,d7:V,d8:M:f8,d9:M:f9,da:M:fa,db:M:fb,dc:M:fc,
  dd:M:fd,de:M:fe,df:D:73.73,e0:V,100:M:101,101:V,102:M:103,103:V,104:M:105,105:V,106:M:107,107:V,
  108:M:109,109:V,10a:M:10b,10b:V,10c:M:10d,10d:V,10e:M:10f,10f:V,110:M:111,111:V,112:M:113,113:V,
  114:M:115,115:V,116:M:117,117:V,118:M:119,119:V,11a:M:11b,11b:V,11c:M:11d,11d:V,11e:M:11f,11f:V,
  120:M:121,121:V,122:M:123,123:V,124:M:125,125:V,126:M:127,127:V,128:M:129,129:V,12a:M:12b,12b:V,
  12c:M:12d,12d:V,12e:M:12f,12f:V,130:M:69.307,131:V,132:M:69.6a,134:M:135,135:V,136:M:137,137:V,
  139:M:13a,13a:V,13b:M:13c,13c:V,13d:M:13e,13e:V,13f:M:6c.b7,141:M:142,142:V,143:M:144,144:V,
  145:M:146,146:V,147:M:148,148:V,149:M:2bc.6e,14a:M:14b,14b:V,14c:M:14d,14d:V,14e:M:14f,14f:V,
  150:M:151,151:V,152:M:153,153:V,154:M:155,155:V,156:M:157,157:V,158:M:159,159:V,15a:M:15b,15b:V,
  15c:M:15d,15d:V,15e:M:15f,15f:V,160:M:161,161:V,162:M:163,163:V,164:M:165,165:V,166:M:167,167:V,
  168:M:169,169:V,16a:M:16b,16b:V,16c:M:16d,16d:V,16e:M:16f,16f:V,170:M:171,171:V,172:M:173,173:V,
  174:M:175,175:V,176:M:177,177:V,178:M:ff,179:M:17a,17a:V,17b:M:17c,17c:V,17d:M:17e,17e:V,
  17f:M:73,180:V,181:M:253,182:M:183,183:V,184:M:185,185:V,186:M:254,187:M:188,188:V,189:M:256,
  18a:M:257,18b:M:18c,18c:V,18e:M:1dd,18f:M:259,190:M:25b,191:M:192,192:V,193:M:260,194:M:263,
  195:V,196:M:269,197:M:268,198:M:199,199:V,19c:M:26f,19d:M:272,19e:V,19f:M:275,1a0:M:1a1,1a1:V,
  1a2:M:1a3,1a3:V,1a4:M:1a5,1a5:V,1a6:M:280,1a7:M:1a8,1a8:V,1a9:M:283,1aa:V,1ac:M:1ad,1ad:V,
  1ae:M:288,1af:M:1b0,1b0:V,1b1:M:28a,1b2:M:28b,1b3:M:1b4,1b4:V,1b5:M:1b6,1b6:V,1b7:M:292,
  1b8:M:1b9,1b9:V,1bc:M:1bd,1bd:V,1c4:M:64.17e,1c7:M:6c.6a,1ca:M:6e.6a,1cd:M:1ce,1ce:V,1cf:M:1d0,
  1d0:V,1d1:M:1d2,1d2:V,1d3:M:1d4,1d4:V,1d5:M:1d6,1d6:V,1d7:M:1d8,1d8:V,1d9:M:1da,1da:V,1db:M:1dc,
  1dc:V,1de:M:1df,1df:V,1e0:M:1e1,1e1:V,1e2:M:1e3,1e3:V,1e4:M:1e5,1e5:V,1e6:M:1e7,1e7:V,1e8:M:1e9,
  1e9:V,1ea:M:1eb,1eb:V,1ec:M:1ed,1ed:V,1ee:M:1ef,1ef:V,1f1:M:64.7a,1f4:M:1f5,1f5:V,1f6:M:195,
  1f7:M:1bf,1f8:M:1f9,1f9:V,1fa:M:1fb,1fb:V,1fc:M:1fd,1fd:V,1fe:M:1ff,1ff:V,200:M:201,201:V,
  202:M:203,203:V,204:M:205,205:V,206:M:207,207:V,208:M:209,209:V,20a:M:20b,20b:V,20c:M:20d,20d:V,
  20e:M:20f,20f:V,210:M:211,211:V,212:M:213,213:V,214:M:215,215:V,216:M:217,217:V,218:M:219,219:V,
  21a:M:21b,21b:V,21c:M:21d,21d:V,21e:M:21f,21f:V,220:M:19e,221:V,222:M:223,223:V,224:M:225,225:V,
  226:M:227,227:V,228:M:229,229:V,22a:M:22b,22b:V,22c:M:22d,22d:V,22e:M:22f,22f:V,230:M:231,231:V,
  232:M:233,233:V,23a:M:2c65,23b:M:23c,23c:V,23d:M:19a,23e:M:2c66,23f:V,241:M:242,242:V,243:M:180,
  244:M:289,245:M:28c,246:M:247,247:V,248:M:249,249:V,24a:M:24b,24b:V,24c:M:24d,24d:V,24e:M:24f,
  24f:V,2b0:M:68,2b1:M:266,2b2:M:6a,2b3:M:72,2b4:M:279,2b5:M:27b,2b6:M:281,2b7:M:77,2b8:M:79,
  2b9:V,2d8:M:20.306,2d9:M:20.307,2da:M:20.30a,2db:M:20.328,2dc:M:20.303,2dd:M:20.30b,2de:V,
  2e0:M:263,2e1:M:6c,2e2:M:73,2e3:M:78,2e4:M:295,2e5:V,340:M:300,341:M:301,342:V,343:M:313,
  344:M:308.301,345:M:3b9,346:V,34f:I,350:V,370:M:371,371:V,372:M:373,373:V,374:M:2b9,375:V,
  376:M:377,377:V,378:X,37a:M:20.3b9,37b:V,37e:M:3b,37f:M:3f3,380:X,384:M:20.301,385:M:20.308.301,
  386:M:3ac,387:M:b7,388:M:3ad,389:M:3ae,38a:M:3af,38b:X,38c:M:3cc,38d:X,38e:M:3cd,38f:M:3ce,
  390:V,391:M:3b1,392:M:3b2,393:M:3b3,394:M:3b4,395:M:3b5,396:M:3b6,397:M:3b7,398:M:3b8,399:M:3b9,
  39a:M:3ba,39b:M:3bb,39c:M:3bc,39d:M:3bd,39e:M:3be,39f:M:3bf,3a0:M:3c0,3a1:M:3c1,3a2:X,3a3:M:3c3,
  3a4:M:3c4,3a5:M:3c5,3a6:M:3c6,3a7:M:3c7,3a8:M:3c8,3a9:M:3c9,3aa:M:3ca,3ab:M:3cb,3ac:V,3c2:D:3c3,
  3c3:V,3cf:M:3d7,3d0:M:3b2,3d1:M:3b8,3d2:M:3c5,3d3:M:3cd,3d4:M:3cb,3d5:M:3c6,3d6:M:3c0,3d7:V,
  3d8:M:3d9,3d9:V,3da:M:3db,3db:V,3dc:M:3dd,3dd:V,3de:M:3df,3df:V,3e0:M:3e1,3e1:V,3e2:M:3e3,3e3:V,
  3e4:M:3e5,3e5:V,3e6:M:3e7,3e7:V,3e8:M:3e9,3e9:V,3ea:M:3eb,3eb:V,3ec:M:3ed,3ed:V,3ee:M:3ef,3ef:V,
  3f0:M:3ba,3f1:M:3c1,3f2:M:3c3,3f3:V,3f4:M:3b8,3f5:M:3b5,3f6:V,3f7:M:3f8,3f8:V,3f9:M:3c3,
  3fa:M:3fb,3fb:V,3fd:M:37b,3fe:M:37c,3ff:M:37d,400:M:450,401:M:451,402:M:452,403:M:453,404:M:454,
  405:M:455,406:M:456,407:M:457,408:M:458,409:M:459,40a:M:45a,40b:M:45b,40c:M:45c,40d:M:45d,
  40e:M:45e,40f:M:45f,410:M:430,411:M:431,412:M:432,413:M:433,414:M:434,415:M:435,416:M:436,
  417:M:437,418:M:438,419:M:439,41a:M:43a,41b:M:43b,41c:M:43c,41d:M:43d,41e:M:43e,41f:M:43f,
  420:M:440,421:M:441,422:M:442,423:M:443,424:M:444,425:M:445,426:M:446,427:M:447,428:M:448,
  429:M:449,42a:M:44a,42b:M:44b,42c:M:44c,42d:M:44d,42e:M:44e,42f:M:44f,430:V,460:M:461,461:V,
  462:M:463,463:V,464:M:465,465:V,466:M:467,467:V,468:M:469,469:V,46a:M:46b,46b:V,46c:M:46d,46d:V,
  46e:M:46f,46f:V,470:M:471,471:V,472:M:473,473:V,474:M:475,475:V,476:M:477,477:V,478:M:479,479:V,
  47a:M:47b,47b:V,47c:M:47d,47d:V,47e:M:47f,47f:V,480:M:481,481:V,48a:M:48b,48b:V,48c:M:48d,48d:V,
  48e:M:48f,48f:V,490:M:491,491:V,492:M:493,493:V,494:M:495,495:V,496:M:497,497:V,498:M:499,499:V,
  49a:M:49b,49b:V,49c:M:49d,49d:V,49e:M:49f,49f:V,4a0:M:4a1,4a1:V,4a2:M:4a3,4a3:V,4a4:M:4a5,4a5:V,
  4a6:M:4a7,4a7:V,4a8:M:4a9,4a9:V,4aa:M:4ab,4ab:V,4ac:M:4ad,4ad:V,4ae:M:4af,4af:V,4b0:M:4b1,4b1:V,
  4b2:M:4b3,4b3:V,4b4:M:4b5,4b5:V,4b6:M:4b7,4b7:V,4b8:M:4b9,4b9:V,4ba:M:4bb,4bb:V,4bc:M:4bd,4bd:V,
  4be:M:4bf,4bf:V,4c0:M:4cf,4c1:M:4c2,4c2:V,4c3:M:4c4,4c4:V,4c5:M:4c6,4c6:V,4c7:M:4c8,4c8:V,
  4c9:M:4ca,4ca:V,4cb:M:4cc,4cc:V,4cd:M:4ce,4ce:V,4d0:M:4d1,4d1:V,4d2:M:4d3,4d3:V,4d4:M:4d5,4d5:V,
  4d6:M:4d7,4d7:V,4d8:M:4d9,4d9:V,4da:M:4db,4db:V,4dc:M:4dd,4dd:V,4de:M:4df,4df:V,4e0:M:4e1,4e1:V,
  4e2:M:4e3,4e3:V,4e4:M:4e5,4e5:V,4e6:M:4e7,4e7:V,4e8:M:4e9,4e9:V,4ea:M:4eb,4eb:V,4ec:M:4ed,4ed:V,
  4ee:M:4ef,4ef:V,4f0:M:4f1,4f1:V,4f2:M:4f3,4f3:V,4f4:M:4f5,4f5:V,4f6:M:4f7,4f7:V,4f8:M:4f9,4f9:V,
  4fa:M:4fb,4fb:V,4fc:M:4fd,4fd:V,4fe:M:4ff,4ff:V,500:M:501,501:V,502:M:503,503:V,504:M:505,505:V,
  506:M:507,507:V,508:M:509,509:V,50a:M:50b,50b:V,50c:M:50d,50d:V,50e:M:50f,50f:V,510:M:511,511:V,
  512:M:513,513:V,514:M:515,515:V,516:M:517,517:V,518:M:519,519:V,51a:M:51b,51b:V,51c:M:51d,51d:V,
  51e:M:51f,51f:V,520:M:521,521:V,522:M:523,523:V,524:M:525,525:V,526:M:527,527:V,528:M:529,529:V,
  52a:M:52b,52b:V,52c:M:52d,52d:V,52e:M:52f,52f:V,530:X,531:M:561,532:M:562,533:M:563,534:M:564,
  535:M:565,536:M:566,537:M:567,538:M:568,539:M:569,53a:M:56a,53b:M:56b,53c:M:56c,53d:M:56d,
  53e:M:56e,53f:M:56f,540:M:570,541:M:571,542:M:572,543:M:573,544:M:574,545:M:575,546:M:576,
  547:M:577,548:M:578,549:M:579,54a:M:57a,54b:M:57b,54c:M:57c,54d:M:57d,54e:M:57e,54f:M:57f,
  550:M:580,551:M:581,552:M:582,553:M:583,554:M:584,555:M:585,556:M:586,557:X,559:V,587:M:565.582,
  588:V,58b:X,58d:V,590:X,591:V,5c8:X,5d0:V,5eb:X,5ef:V,5f5:X,606:V,61c:X,61d:V,675:M:627.674,
  676:M:648.674,677:M:6c7.674,678:M:64a.674,679:V,6dd:X,6de:V,70e:X,710:V,74b:X,74d:V,7b2:X,7c0:V,
  7fb:X,7fd:V,82e:X,830:V,83f:X,840:V,85c:X,85e:V,85f:X,860:V,86b:X,870:V,890:X,897:V,8e2:X,8e3:V,
  958:M:915.93c,959:M:916.93c,95a:M:917.93c,95b:M:91c.93c,95c:M:921.93c,95d:M:922.93c,
  95e:M:92b.93c,95f:M:92f.93c,960:V,984:X,985:V,98d:X,98f:V,991:X,993:V,9a9:X,9aa:V,9b1:X,9b2:V,
  9b3:X,9b6:V,9ba:X,9bc:V,9c5:X,9c7:V,9c9:X,9cb:V,9cf:X,9d7:V,9d8:X,9dc:M:9a1.9bc,9dd:M:9a2.9bc,
  9de:X,9df:M:9af.9bc,9e0:V,9e4:X,9e6:V,9ff:X,a01:V,a04:X,a05:V,a0b:X,a0f:V,a11:X,a13:V,a29:X,
  a2a:V,a31:X,a32:V,a33:M:a32.a3c,a34:X,a35:V,a36:M:a38.a3c,a37:X,a38:V,a3a:X,a3c:V,a3d:X,a3e:V,
  a43:X,a47:V,a49:X,a4b:V,a4e:X,a51:V,a52:X,a59:M:a16.a3c,a5a:M:a17.a3c,a5b:M:a1c.a3c,a5c:V,a5d:X,
  a5e:M:a2b.a3c,a5f:X,a66:V,a77:X,a81:V,a84:X,a85:V,a8e:X,a8f:V,a92:X,a93:V,aa9:X,aaa:V,ab1:X,
  ab2:V,ab4:X,ab5:V,aba:X,abc:V,ac6:X,ac7:V,aca:X,acb:V,ace:X,ad0:V,ad1:X,ae0:V,ae4:X,ae6:V,af2:X,
  af9:V,b00:X,b01:V,b04:X,b05:V,b0d:X,b0f:V,b11:X,b13:V,b29:X,b2a:V,b31:X,b32:V,b34:X,b35:V,b3a:X,
  b3c:V,b45:X,b47:V,b49:X,b4b:V,b4e:X,b55:V,b58:X,b5c:M:b21.b3c,b5d:M:b22.b3c,b5e:X,b5f:V,b64:X,
  b66:V,b78:X,b82:V,b84:X,b85:V,b8b:X,b8e:V,b91:X,b92:V,b96:X,b99:V,b9b:X,b9c:V,b9d:X,b9e:V,ba0:X,
  ba3:V,ba5:X,ba8:V,bab:X,bae:V,bba:X,bbe:V,bc3:X,bc6:V,bc9:X,bca:V,bce:X,bd0:V,bd1:X,bd7:V,bd8:X,
  be6:V,bfb:X,c00:V,c0d:X,c0e:V,c11:X,c12:V,c29:X,c2a:V,c3a:X,c3c:V,c45:X,c46:V,c49:X,c4a:V,c4e:X,
  c55:V,c57:X,c58:V,c5b:X,c5c:V,c5e:X,c60:V,c64:X,c66:V,c70:X,c77:V,c8d:X,c8e:V,c91:X,c92:V,ca9:X,
  caa:V,cb4:X,cb5:V,cba:X,cbc:V,cc5:X,cc6:V,cc9:X,cca:V,cce:X,cd5:V,cd7:X,cdc:V,cdf:X,ce0:V,ce4:X,
  ce6:V,cf0:X,cf1:V,cf4:X,d00:V,d0d:X,d0e:V,d11:X,d12:V,d45:X,d46:V,d49:X,d4a:V,d50:X,d54:V,d64:X,
  d66:V,d80:X,d81:V,d84:X,d85:V,d97:X,d9a:V,db2:X,db3:V,dbc:X,dbd:V,dbe:X,dc0:V,dc7:X,dca:V,dcb:X,
  dcf:V,dd5:X,dd6:V,dd7:X,dd8:V,de0:X,de6:V,df0:X,df2:V,df5:X,e01:V,e33:M:e4d.e32,e34:V,e3b:X,
  e3f:V,e5c:X,e81:V,e83:X,e84:V,e85:X,e86:V,e8b:X,e8c:V,ea4:X,ea5:V,ea6:X,ea7:V,eb3:M:ecd.eb2,
  eb4:V,ebe:X,ec0:V,ec5:X,ec6:V,ec7:X,ec8:V,ecf:X,ed0:V,eda:X,edc:M:eab.e99,edd:M:eab.ea1,ede:V,
  ee0:X,f00:V,f0c:M:f0b,f0d:V,f43:M:f42.fb7,f44:V,f48:X,f49:V,f4d:M:f4c.fb7,f4e:V,f52:M:f51.fb7,
  f53:V,f57:M:f56.fb7,f58:V,f5c:M:f5b.fb7,f5d:V,f69:M:f40.fb5,f6a:V,f6d:X,f71:V,f73:M:f71.f72,
  f74:V,f75:M:f71.f74,f76:M:fb2.f80,f77:M:fb2.f71.f80,f78:M:fb3.f80,f79:M:fb3.f71.f80,f7a:V,
  f81:M:f71.f80,f82:V,f93:M:f92.fb7,f94:V,f98:X,f99:V,f9d:M:f9c.fb7,f9e:V,fa2:M:fa1.fb7,fa3:V,
  fa7:M:fa6.fb7,fa8:V,fac:M:fab.fb7,fad:V,fb9:M:f90.fb5,fba:V,fbd:X,fbe:V,fcd:X,fce:V,fdb:X,
  1000:V,10a0:M:2d00,10a1:M:2d01,10a2:M:2d02,10a3:M:2d03,10a4:M:2d04,10a5:M:2d05,10a6:M:2d06,
  10a7:M:2d07,10a8:M:2d08,10a9:M:2d09,10aa:M:2d0a,10ab:M:2d0b,10ac:M:2d0c,10ad:M:2d0d,10ae:M:2d0e,
  10af:M:2d0f,10b0:M:2d10,10b1:M:2d11,10b2:M:2d12,10b3:M:2d13,10b4:M:2d14,10b5:M:2d15,10b6:M:2d16,
  10b7:M:2d17,10b8:M:2d18,10b9:M:2d19,10ba:M:2d1a,10bb:M:2d1b,10bc:M:2d1c,10bd:M:2d1d,10be:M:2d1e,
  10bf:M:2d1f,10c0:M:2d20,10c1:M:2d21,10c2:M:2d22,10c3:M:2d23,10c4:M:2d24,10c5:M:2d25,10c6:X,
  10c7:M:2d27,10c8:X,10cd:M:2d2d,10ce:X,10d0:V,10fc:M:10dc,10fd:V,115f:I,1161:V,1249:X,124a:V,
  124e:X,1250:V,1257:X,1258:V,1259:X,125a:V,125e:X,1260:V,1289:X,128a:V,128e:X,1290:V,12b1:X,
  12b2:V,12b6:X,12b8:V,12bf:X,12c0:V,12c1:X,12c2:V,12c6:X,12c8:V,12d7:X,12d8:V,1311:X,1312:V,
  1316:X,1318:V,135b:X,135d:V,137d:X,1380:V,139a:X,13a0:V,13f6:X,13f8:M:13f0,13f9:M:13f1,
  13fa:M:13f2,13fb:M:13f3,13fc:M:13f4,13fd:M:13f5,13fe:X,1400:V,1680:X,1681:V,169d:X,16a0:V,
  16f9:X,1700:V,1716:X,171f:V,1737:X,1740:V,1754:X,1760:V,176d:X,176e:V,1771:X,1772:V,1774:X,
  1780:V,17b4:I,17b6:V,17de:X,17e0:V,17ea:X,17f0:V,17fa:X,1800:V,180b:I,1810:V,181a:X,1820:V,
  1879:X,1880:V,18ab:X,18b0:V,18f6:X,1900:V,191f:X,1920:V,192c:X,1930:V,193c:X,1940:V,1941:X,
  1944:V,196e:X,1970:V,1975:X,1980:V,19ac:X,19b0:V,19ca:X,19d0:V,19db:X,19de:V,1a1c:X,1a1e:V,
  1a5f:X,1a60:V,1a7d:X,1a7f:V,1a8a:X,1a90:V,1a9a:X,1aa0:V,1aae:X,1ab0:V,1ade:X,1ae0:V,1aec:X,
  1b00:V,1b4d:X,1b4e:V,1bf4:X,1bfc:V,1c38:X,1c3b:V,1c4a:X,1c4d:V,1c80:M:432,1c81:M:434,1c82:M:43e,
  1c83:M:441,1c84:M:442,1c86:M:44a,1c87:M:463,1c88:M:a64b,1c89:M:1c8a,1c8a:V,1c8b:X,1c90:M:10d0,
  1c91:M:10d1,1c92:M:10d2,1c93:M:10d3,1c94:M:10d4,1c95:M:10d5,1c96:M:10d6,1c97:M:10d7,1c98:M:10d8,
  1c99:M:10d9,1c9a:M:10da,1c9b:M:10db,1c9c:M:10dc,1c9d:M:10dd,1c9e:M:10de,1c9f:M:10df,1ca0:M:10e0,
  1ca1:M:10e1,1ca2:M:10e2,1ca3:M:10e3,1ca4:M:10e4,1ca5:M:10e5,1ca6:M:10e6,1ca7:M:10e7,1ca8:M:10e8,
  1ca9:M:10e9,1caa:M:10ea,1cab:M:10eb,1cac:M:10ec,1cad:M:10ed,1cae:M:10ee,1caf:M:10ef,1cb0:M:10f0,
  1cb1:M:10f1,1cb2:M:10f2,1cb3:M:10f3,1cb4:M:10f4,1cb5:M:10f5,1cb6:M:10f6,1cb7:M:10f7,1cb8:M:10f8,
  1cb9:M:10f9,1cba:M:10fa,1cbb:X,1cbd:M:10fd,1cbe:M:10fe,1cbf:M:10ff,1cc0:V,1cc8:X,1cd0:V,1cfb:X,
  1d00:V,1d2c:M:61,1d2d:M:e6,1d2e:M:62,1d2f:V,1d30:M:64,1d31:M:65,1d32:M:1dd,1d33:M:67,1d34:M:68,
  1d35:M:69,1d36:M:6a,1d37:M:6b,1d38:M:6c,1d39:M:6d,1d3a:M:6e,1d3b:V,1d3c:M:6f,1d3d:M:223,
  1d3e:M:70,1d3f:M:72,1d40:M:74,1d41:M:75,1d42:M:77,1d43:M:61,1d44:M:250,1d45:M:251,1d46:M:1d02,
  1d47:M:62,1d48:M:64,1d49:M:65,1d4a:M:259,1d4b:M:25b,1d4c:M:25c,1d4d:M:67,1d4e:V,1d4f:M:6b,
  1d50:M:6d,1d51:M:14b,1d52:M:6f,1d53:M:254,1d54:M:1d16,1d55:M:1d17,1d56:M:70,1d57:M:74,1d58:M:75,
  1d59:M:1d1d,1d5a:M:26f,1d5b:M:76,1d5c:M:1d25,1d5d:M:3b2,1d5e:M:3b3,1d5f:M:3b4,1d60:M:3c6,
  1d61:M:3c7,1d62:M:69,1d63:M:72,1d64:M:75,1d65:M:76,1d66:M:3b2,1d67:M:3b3,1d68:M:3c1,1d69:M:3c6,
  1d6a:M:3c7,1d6b:V,1d78:M:43d,1d79:V,1d9b:M:252,1d9c:M:63,1d9d:M:255,1d9e:M:f0,1d9f:M:25c,
  1da0:M:66,1da1:M:25f,1da2:M:261,1da3:M:265,1da4:M:268,1da5:M:269,1da6:M:26a,1da7:M:1d7b,
  1da8:M:29d,1da9:M:26d,1daa:M:1d85,1dab:M:29f,1dac:M:271,1dad:M:270,1dae:M:272,1daf:M:273,
  1db0:M:274,1db1:M:275,1db2:M:278,1db3:M:282,1db4:M:283,1db5:M:1ab,1db6:M:289,1db7:M:28a,
  1db8:M:1d1c,1db9:M:28b,1dba:M:28c,1dbb:M:7a,1dbc:M:290,1dbd:M:291,1dbe:M:292,1dbf:M:3b8,1dc0:V,
  1e00:M:1e01,1e01:V,1e02:M:1e03,1e03:V,1e04:M:1e05,1e05:V,1e06:M:1e07,1e07:V,1e08:M:1e09,1e09:V,
  1e0a:M:1e0b,1e0b:V,1e0c:M:1e0d,1e0d:V,1e0e:M:1e0f,1e0f:V,1e10:M:1e11,1e11:V,1e12:M:1e13,1e13:V,
  1e14:M:1e15,1e15:V,1e16:M:1e17,1e17:V,1e18:M:1e19,1e19:V,1e1a:M:1e1b,1e1b:V,1e1c:M:1e1d,1e1d:V,
  1e1e:M:1e1f,1e1f:V,1e20:M:1e21,1e21:V,1e22:M:1e23,1e23:V,1e24:M:1e25,1e25:V,1e26:M:1e27,1e27:V,
  1e28:M:1e29,1e29:V,1e2a:M:1e2b,1e2b:V,1e2c:M:1e2d,1e2d:V,1e2e:M:1e2f,1e2f:V,1e30:M:1e31,1e31:V,
  1e32:M:1e33,1e33:V,1e34:M:1e35,1e35:V,1e36:M:1e37,1e37:V,1e38:M:1e39,1e39:V,1e3a:M:1e3b,1e3b:V,
  1e3c:M:1e3d,1e3d:V,1e3e:M:1e3f,1e3f:V,1e40:M:1e41,1e41:V,1e42:M:1e43,1e43:V,1e44:M:1e45,1e45:V,
  1e46:M:1e47,1e47:V,1e48:M:1e49,1e49:V,1e4a:M:1e4b,1e4b:V,1e4c:M:1e4d,1e4d:V,1e4e:M:1e4f,1e4f:V,
  1e50:M:1e51,1e51:V,1e52:M:1e53,1e53:V,1e54:M:1e55,1e55:V,1e56:M:1e57,1e57:V,1e58:M:1e59,1e59:V,
  1e5a:M:1e5b,1e5b:V,1e5c:M:1e5d,1e5d:V,1e5e:M:1e5f,1e5f:V,1e60:M:1e61,1e61:V,1e62:M:1e63,1e63:V,
  1e64:M:1e65,1e65:V,1e66:M:1e67,1e67:V,1e68:M:1e69,1e69:V,1e6a:M:1e6b,1e6b:V,1e6c:M:1e6d,1e6d:V,
  1e6e:M:1e6f,1e6f:V,1e70:M:1e71,1e71:V,1e72:M:1e73,1e73:V,1e74:M:1e75,1e75:V,1e76:M:1e77,1e77:V,
  1e78:M:1e79,1e79:V,1e7a:M:1e7b,1e7b:V,1e7c:M:1e7d,1e7d:V,1e7e:M:1e7f,1e7f:V,1e80:M:1e81,1e81:V,
  1e82:M:1e83,1e83:V,1e84:M:1e85,1e85:V,1e86:M:1e87,1e87:V,1e88:M:1e89,1e89:V,1e8a:M:1e8b,1e8b:V,
  1e8c:M:1e8d,1e8d:V,1e8e:M:1e8f,1e8f:V,1e90:M:1e91,1e91:V,1e92:M:1e93,1e93:V,1e94:M:1e95,1e95:V,
  1e9a:M:61.2be,1e9b:M:1e61,1e9c:V,1e9e:M:df,1e9f:V,1ea0:M:1ea1,1ea1:V,1ea2:M:1ea3,1ea3:V,
  1ea4:M:1ea5,1ea5:V,1ea6:M:1ea7,1ea7:V,1ea8:M:1ea9,1ea9:V,1eaa:M:1eab,1eab:V,1eac:M:1ead,1ead:V,
  1eae:M:1eaf,1eaf:V,1eb0:M:1eb1,1eb1:V,1eb2:M:1eb3,1eb3:V,1eb4:M:1eb5,1eb5:V,1eb6:M:1eb7,1eb7:V,
  1eb8:M:1eb9,1eb9:V,1eba:M:1ebb,1ebb:V,1ebc:M:1ebd,1ebd:V,1ebe:M:1ebf,1ebf:V,1ec0:M:1ec1,1ec1:V,
  1ec2:M:1ec3,1ec3:V,1ec4:M:1ec5,1ec5:V,1ec6:M:1ec7,1ec7:V,1ec8:M:1ec9,1ec9:V,1eca:M:1ecb,1ecb:V,
  1ecc:M:1ecd,1ecd:V,1ece:M:1ecf,1ecf:V,1ed0:M:1ed1,1ed1:V,1ed2:M:1ed3,1ed3:V,1ed4:M:1ed5,1ed5:V,
  1ed6:M:1ed7,1ed7:V,1ed8:M:1ed9,1ed9:V,1eda:M:1edb,1edb:V,1edc:M:1edd,1edd:V,1ede:M:1edf,1edf:V,
  1ee0:M:1ee1,1ee1:V,1ee2:M:1ee3,1ee3:V,1ee4:M:1ee5,1ee5:V,1ee6:M:1ee7,1ee7:V,1ee8:M:1ee9,1ee9:V,
  1eea:M:1eeb,1eeb:V,1eec:M:1eed,1eed:V,1eee:M:1eef,1eef:V,1ef0:M:1ef1,1ef1:V,1ef2:M:1ef3,1ef3:V,
  1ef4:M:1ef5,1ef5:V,1ef6:M:1ef7,1ef7:V,1ef8:M:1ef9,1ef9:V,1efa:M:1efb,1efb:V,1efc:M:1efd,1efd:V,
  1efe:M:1eff,1eff:V,1f08:M:1f00,1f09:M:1f01,1f0a:M:1f02,1f0b:M:1f03,1f0c:M:1f04,1f0d:M:1f05,
  1f0e:M:1f06,1f0f:M:1f07,1f10:V,1f16:X,1f18:M:1f10,1f19:M:1f11,1f1a:M:1f12,1f1b:M:1f13,
  1f1c:M:1f14,1f1d:M:1f15,1f1e:X,1f20:V,1f28:M:1f20,1f29:M:1f21,1f2a:M:1f22,1f2b:M:1f23,
  1f2c:M:1f24,1f2d:M:1f25,1f2e:M:1f26,1f2f:M:1f27,1f30:V,1f38:M:1f30,1f39:M:1f31,1f3a:M:1f32,
  1f3b:M:1f33,1f3c:M:1f34,1f3d:M:1f35,1f3e:M:1f36,1f3f:M:1f37,1f40:V,1f46:X,1f48:M:1f40,
  1f49:M:1f41,1f4a:M:1f42,1f4b:M:1f43,1f4c:M:1f44,1f4d:M:1f45,1f4e:X,1f50:V,1f58:X,1f59:M:1f51,
  1f5a:X,1f5b:M:1f53,1f5c:X,1f5d:M:1f55,1f5e:X,1f5f:M:1f57,1f60:V,1f68:M:1f60,1f69:M:1f61,
  1f6a:M:1f62,1f6b:M:1f63,1f6c:M:1f64,1f6d:M:1f65,1f6e:M:1f66,1f6f:M:1f67,1f70:V,1f71:M:3ac,
  1f72:V,1f73:M:3ad,1f74:V,1f75:M:3ae,1f76:V,1f77:M:3af,1f78:V,1f79:M:3cc,1f7a:V,1f7b:M:3cd,
  1f7c:V,1f7d:M:3ce,1f7e:X,1f80:M:1f00.3b9,1f81:M:1f01.3b9,1f82:M:1f02.3b9,1f83:M:1f03.3b9,
  1f84:M:1f04.3b9,1f85:M:1f05.3b9,1f86:M:1f06.3b9,1f87:M:1f07.3b9,1f88:M:1f00.3b9,1f89:M:1f01.3b9,
  1f8a:M:1f02.3b9,1f8b:M:1f03.3b9,1f8c:M:1f04.3b9,1f8d:M:1f05.3b9,1f8e:M:1f06.3b9,1f8f:M:1f07.3b9,
  1f90:M:1f20.3b9,1f91:M:1f21.3b9,1f92:M:1f22.3b9,1f93:M:1f23.3b9,1f94:M:1f24.3b9,1f95:M:1f25.3b9,
  1f96:M:1f26.3b9,1f97:M:1f27.3b9,1f98:M:1f20.3b9,1f99:M:1f21.3b9,1f9a:M:1f22.3b9,1f9b:M:1f23.3b9,
  1f9c:M:1f24.3b9,1f9d:M:1f25.3b9,1f9e:M:1f26.3b9,1f9f:M:1f27.3b9,1fa0:M:1f60.3b9,1fa1:M:1f61.3b9,
  1fa2:M:1f62.3b9,1fa3:M:1f63.3b9,1fa4:M:1f64.3b9,1fa5:M:1f65.3b9,1fa6:M:1f66.3b9,1fa7:M:1f67.3b9,
  1fa8:M:1f60.3b9,1fa9:M:1f61.3b9,1faa:M:1f62.3b9,1fab:M:1f63.3b9,1fac:M:1f64.3b9,1fad:M:1f65.3b9,
  1fae:M:1f66.3b9,1faf:M:1f67.3b9,1fb0:V,1fb2:M:1f70.3b9,1fb3:M:3b1.3b9,1fb4:M:3ac.3b9,1fb5:X,
  1fb6:V,1fb7:M:1fb6.3b9,1fb8:M:1fb0,1fb9:M:1fb1,1fba:M:1f70,1fbb:M:3ac,1fbc:M:3b1.3b9,
  1fbd:M:20.313,1fbe:M:3b9,1fbf:M:20.313,1fc0:M:20.342,1fc1:M:20.308.342,1fc2:M:1f74.3b9,
  1fc3:M:3b7.3b9,1fc4:M:3ae.3b9,1fc5:X,1fc6:V,1fc7:M:1fc6.3b9,1fc8:M:1f72,1fc9:M:3ad,1fca:M:1f74,
  1fcb:M:3ae,1fcc:M:3b7.3b9,1fcd:M:20.313.300,1fce:M:20.313.301,1fcf:M:20.313.342,1fd0:V,
  1fd3:M:390,1fd4:X,1fd6:V,1fd8:M:1fd0,1fd9:M:1fd1,1fda:M:1f76,1fdb:M:3af,1fdc:X,
  1fdd:M:20.314.300,1fde:M:20.314.301,1fdf:M:20.314.342,1fe0:V,1fe3:M:3b0,1fe4:V,1fe8:M:1fe0,
  1fe9:M:1fe1,1fea:M:1f7a,1feb:M:3cd,1fec:M:1fe5,1fed:M:20.308.300,1fee:M:20.308.301,1fef:M:60,
  1ff0:X,1ff2:M:1f7c.3b9,1ff3:M:3c9.3b9,1ff4:M:3ce.3b9,1ff5:X,1ff6:V,1ff7:M:1ff6.3b9,1ff8:M:1f78,
  1ff9:M:3cc,1ffa:M:1f7c,1ffb:M:3ce,1ffc:M:3c9.3b9,1ffd:M:20.301,1ffe:M:20.314,1fff:X,2000:M:20,
  200b:I,200c:D:,200e:X,2010:V,2011:M:2010,2012:V,2017:M:20.333,2018:V,2024:X,2027:V,2028:X,
  202f:M:20,2030:V,2033:M:2032.2032,2034:M:2032.2032.2032,2035:V,2036:M:2035.2035,
  2037:M:2035.2035.2035,2038:V,203c:M:21.21,203d:V,203e:M:20.305,203f:V,2047:M:3f.3f,2048:M:3f.21,
  2049:M:21.3f,204a:V,2057:M:2032.2032.2032.2032,2058:V,205f:M:20,2060:I,2065:X,206a:I,2070:M:30,
  2071:M:69,2072:X,2074:M:34,2075:M:35,2076:M:36,2077:M:37,2078:M:38,2079:M:39,207a:M:2b,
  207b:M:2212,207c:M:3d,207d:M:28,207e:M:29,207f:M:6e,2080:M:30,2081:M:31,2082:M:32,2083:M:33,
  2084:M:34,2085:M:35,2086:M:36,2087:M:37,2088:M:38,2089:M:39,208a:M:2b,208b:M:2212,208c:M:3d,
  208d:M:28,208e:M:29,208f:X,2090:M:61,2091:M:65,2092:M:6f,2093:M:78,2094:M:259,2095:M:68,
  2096:M:6b,2097:M:6c,2098:M:6d,2099:M:6e,209a:M:70,209b:M:73,209c:M:74,209d:X,20a0:V,
  20a8:M:72.73,20a9:V,20c2:X,20d0:V,20f1:X,2100:M:61.2f.63,2101:M:61.2f.73,2102:M:63,2103:M:b0.63,
  2104:V,2105:M:63.2f.6f,2106:M:63.2f.75,2107:M:25b,2108:V,2109:M:b0.66,210a:M:67,210b:M:68,
  210f:M:127,2110:M:69,2112:M:6c,2114:V,2115:M:6e,2116:M:6e.6f,2117:V,2119:M:70,211a:M:71,
  211b:M:72,211e:V,2120:M:73.6d,2121:M:74.65.6c,2122:M:74.6d,2123:V,2124:M:7a,2125:V,2126:M:3c9,
  2127:V,2128:M:7a,2129:V,212a:M:6b,212b:M:e5,212c:M:62,212d:M:63,212e:V,212f:M:65,2131:M:66,
  2132:M:214e,2133:M:6d,2134:M:6f,2135:M:5d0,2136:M:5d1,2137:M:5d2,2138:M:5d3,2139:M:69,213a:V,
  213b:M:66.61.78,213c:M:3c0,213d:M:3b3,213f:M:3c0,2140:M:2211,2141:V,2145:M:64,2147:M:65,
  2148:M:69,2149:M:6a,214a:V,2150:M:31.2044.37,2151:M:31.2044.39,2152:M:31.2044.31.30,
  2153:M:31.2044.33,2154:M:32.2044.33,2155:M:31.2044.35,2156:M:32.2044.35,2157:M:33.2044.35,
  2158:M:34.2044.35,2159:M:31.2044.36,215a:M:35.2044.36,215b:M:31.2044.38,215c:M:33.2044.38,
  215d:M:35.2044.38,215e:M:37.2044.38,215f:M:31.2044,2160:M:69,2161:M:69.69,2162:M:69.69.69,
  2163:M:69.76,2164:M:76,2165:M:76.69,2166:M:76.69.69,2167:M:76.69.69.69,2168:M:69.78,2169:M:78,
  216a:M:78.69,216b:M:78.69.69,216c:M:6c,216d:M:63,216e:M:64,216f:M:6d,2170:M:69,2171:M:69.69,
  2172:M:69.69.69,2173:M:69.76,2174:M:76,2175:M:76.69,2176:M:76.69.69,2177:M:76.69.69.69,
  2178:M:69.78,2179:M:78,217a:M:78.69,217b:M:78.69.69,217c:M:6c,217d:M:63,217e:M:64,217f:M:6d,
  2180:V,2183:M:2184,2184:V,2189:M:30.2044.33,218a:V,218c:X,2190:V,222c:M:222b.222b,
  222d:M:222b.222b.222b,222e:V,222f:M:222e.222e,2230:M:222e.222e.222e,2231:V,2329:M:3008,
  232a:M:3009,232b:V,242a:X,2440:V,244b:X,2460:M:31,2461:M:32,2462:M:33,2463:M:34,2464:M:35,
  2465:M:36,2466:M:37,2467:M:38,2468:M:39,2469:M:31.30,246a:M:31.31,246b:M:31.32,246c:M:31.33,
  246d:M:31.34,246e:M:31.35,246f:M:31.36,2470:M:31.37,2471:M:31.38,2472:M:31.39,2473:M:32.30,
  2474:M:28.31.29,2475:M:28.32.29,2476:M:28.33.29,2477:M:28.34.29,2478:M:28.35.29,2479:M:28.36.29,
  247a:M:28.37.29,247b:M:28.38.29,247c:M:28.39.29,247d:M:28.31.30.29,247e:M:28.31.31.29,
  247f:M:28.31.32.29,2480:M:28.31.33.29,2481:M:28.31.34.29,2482:M:28.31.35.29,2483:M:28.31.36.29,
  2484:M:28.31.37.29,2485:M:28.31.38.29,2486:M:28.31.39.29,2487:M:28.32.30.29,2488:X,
  249c:M:28.61.29,249d:M:28.62.29,249e:M:28.63.29,249f:M:28.64.29,24a0:M:28.65.29,24a1:M:28.66.29,
  24a2:M:28.67.29,24a3:M:28.68.29,24a4:M:28.69.29,24a5:M:28.6a.29,24a6:M:28.6b.29,24a7:M:28.6c.29,
  24a8:M:28.6d.29,24a9:M:28.6e.29,24aa:M:28.6f.29,24ab:M:28.70.29,24ac:M:28.71.29,24ad:M:28.72.29,
  24ae:M:28.73.29,24af:M:28.74.29,24b0:M:28.75.29,24b1:M:28.76.29,24b2:M:28.77.29,24b3:M:28.78.29,
  24b4:M:28.79.29,24b5:M:28.7a.29,24b6:M:61,24b7:M:62,24b8:M:63,24b9:M:64,24ba:M:65,24bb:M:66,
  24bc:M:67,24bd:M:68,24be:M:69,24bf:M:6a,24c0:M:6b,24c1:M:6c,24c2:M:6d,24c3:M:6e,24c4:M:6f,
  24c5:M:70,24c6:M:71,24c7:M:72,24c8:M:73,24c9:M:74,24ca:M:75,24cb:M:76,24cc:M:77,24cd:M:78,
  24ce:M:79,24cf:M:7a,24d0:M:61,24d1:M:62,24d2:M:63,24d3:M:64,24d4:M:65,24d5:M:66,24d6:M:67,
  24d7:M:68,24d8:M:69,24d9:M:6a,24da:M:6b,24db:M:6c,24dc:M:6d,24dd:M:6e,24de:M:6f,24df:M:70,
  24e0:M:71,24e1:M:72,24e2:M:73,24e3:M:74,24e4:M:75,24e5:M:76,24e6:M:77,24e7:M:78,24e8:M:79,
  24e9:M:7a,24ea:M:30,24eb:V,2a0c:M:222b.222b.222b.222b,2a0d:V,2a74:M:3a.3a.3d,2a75:M:3d.3d,
  2a76:M:3d.3d.3d,2a77:V,2adc:M:2add.338,2add:V,2b74:X,2b76:V,2c00:M:2c30,2c01:M:2c31,2c02:M:2c32,
  2c03:M:2c33,2c04:M:2c34,2c05:M:2c35,2c06:M:2c36,2c07:M:2c37,2c08:M:2c38,2c09:M:2c39,2c0a:M:2c3a,
  2c0b:M:2c3b,2c0c:M:2c3c,2c0d:M:2c3d,2c0e:M:2c3e,2c0f:M:2c3f,2c10:M:2c40,2c11:M:2c41,2c12:M:2c42,
  2c13:M:2c43,2c14:M:2c44,2c15:M:2c45,2c16:M:2c46,2c17:M:2c47,2c18:M:2c48,2c19:M:2c49,2c1a:M:2c4a,
  2c1b:M:2c4b,2c1c:M:2c4c,2c1d:M:2c4d,2c1e:M:2c4e,2c1f:M:2c4f,2c20:M:2c50,2c21:M:2c51,2c22:M:2c52,
  2c23:M:2c53,2c24:M:2c54,2c25:M:2c55,2c26:M:2c56,2c27:M:2c57,2c28:M:2c58,2c29:M:2c59,2c2a:M:2c5a,
  2c2b:M:2c5b,2c2c:M:2c5c,2c2d:M:2c5d,2c2e:M:2c5e,2c2f:M:2c5f,2c30:V,2c60:M:2c61,2c61:V,
  2c62:M:26b,2c63:M:1d7d,2c64:M:27d,2c65:V,2c67:M:2c68,2c68:V,2c69:M:2c6a,2c6a:V,2c6b:M:2c6c,
  2c6c:V,2c6d:M:251,2c6e:M:271,2c6f:M:250,2c70:M:252,2c71:V,2c72:M:2c73,2c73:V,2c75:M:2c76,2c76:V,
  2c7c:M:6a,2c7d:M:76,2c7e:M:23f,2c7f:M:240,2c80:M:2c81,2c81:V,2c82:M:2c83,2c83:V,2c84:M:2c85,
  2c85:V,2c86:M:2c87,2c87:V,2c88:M:2c89,2c89:V,2c8a:M:2c8b,2c8b:V,2c8c:M:2c8d,2c8d:V,2c8e:M:2c8f,
  2c8f:V,2c90:M:2c91,2c91:V,2c92:M:2c93,2c93:V,2c94:M:2c95,2c95:V,2c96:M:2c97,2c97:V,2c98:M:2c99,
  2c99:V,2c9a:M:2c9b,2c9b:V,2c9c:M:2c9d,2c9d:V,2c9e:M:2c9f,2c9f:V,2ca0:M:2ca1,2ca1:V,2ca2:M:2ca3,
  2ca3:V,2ca4:M:2ca5,2ca5:V,2ca6:M:2ca7,2ca7:V,2ca8:M:2ca9,2ca9:V,2caa:M:2cab,2cab:V,2cac:M:2cad,
  2cad:V,2cae:M:2caf,2caf:V,2cb0:M:2cb1,2cb1:V,2cb2:M:2cb3,2cb3:V,2cb4:M:2cb5,2cb5:V,2cb6:M:2cb7,
  2cb7:V,2cb8:M:2cb9,2cb9:V,2cba:M:2cbb,2cbb:V,2cbc:M:2cbd,2cbd:V,2cbe:M:2cbf,2cbf:V,2cc0:M:2cc1,
  2cc1:V,2cc2:M:2cc3,2cc3:V,2cc4:M:2cc5,2cc5:V,2cc6:M:2cc7,2cc7:V,2cc8:M:2cc9,2cc9:V,2cca:M:2ccb,
  2ccb:V,2ccc:M:2ccd,2ccd:V,2cce:M:2ccf,2ccf:V,2cd0:M:2cd1,2cd1:V,2cd2:M:2cd3,2cd3:V,2cd4:M:2cd5,
  2cd5:V,2cd6:M:2cd7,2cd7:V,2cd8:M:2cd9,2cd9:V,2cda:M:2cdb,2cdb:V,2cdc:M:2cdd,2cdd:V,2cde:M:2cdf,
  2cdf:V,2ce0:M:2ce1,2ce1:V,2ce2:M:2ce3,2ce3:V,2ceb:M:2cec,2cec:V,2ced:M:2cee,2cee:V,2cf2:M:2cf3,
  2cf3:V,2cf4:X,2cf9:V,2d26:X,2d27:V,2d28:X,2d2d:V,2d2e:X,2d30:V,2d68:X,2d6f:M:2d61,2d70:V,2d71:X,
  2d7f:V,2d97:X,2da0:V,2da7:X,2da8:V,2daf:X,2db0:V,2db7:X,2db8:V,2dbf:X,2dc0:V,2dc7:X,2dc8:V,
  2dcf:X,2dd0:V,2dd7:X,2dd8:V,2ddf:X,2de0:V,2e5e:X,2e80:V,2e9a:X,2e9b:V,2e9f:M:6bcd,2ea0:V,
  2ef3:M:9f9f,2ef4:X,2f00:M:4e00,2f01:M:4e28,2f02:M:4e36,2f03:M:4e3f,2f04:M:4e59,2f05:M:4e85,
  2f06:M:4e8c,2f07:M:4ea0,2f08:M:4eba,2f09:M:513f,2f0a:M:5165,2f0b:M:516b,2f0c:M:5182,2f0d:M:5196,
  2f0e:M:51ab,2f0f:M:51e0,2f10:M:51f5,2f11:M:5200,2f12:M:529b,2f13:M:52f9,2f14:M:5315,2f15:M:531a,
  2f16:M:5338,2f17:M:5341,2f18:M:535c,2f19:M:5369,2f1a:M:5382,2f1b:M:53b6,2f1c:M:53c8,2f1d:M:53e3,
  2f1e:M:56d7,2f1f:M:571f,2f20:M:58eb,2f21:M:5902,2f22:M:590a,2f23:M:5915,2f24:M:5927,2f25:M:5973,
  2f26:M:5b50,2f27:M:5b80,2f28:M:5bf8,2f29:M:5c0f,2f2a:M:5c22,2f2b:M:5c38,2f2c:M:5c6e,2f2d:M:5c71,
  2f2e:M:5ddb,2f2f:M:5de5,2f30:M:5df1,2f31:M:5dfe,2f32:M:5e72,2f33:M:5e7a,2f34:M:5e7f,2f35:M:5ef4,
  2f36:M:5efe,2f37:M:5f0b,2f38:M:5f13,2f39:M:5f50,2f3a:M:5f61,2f3b:M:5f73,2f3c:M:5fc3,2f3d:M:6208,
  2f3e:M:6236,2f3f:M:624b,2f40:M:652f,2f41:M:6534,2f42:M:6587,2f43:M:6597,2f44:M:65a4,2f45:M:65b9,
  2f46:M:65e0,2f47:M:65e5,2f48:M:66f0,2f49:M:6708,2f4a:M:6728,2f4b:M:6b20,2f4c:M:6b62,2f4d:M:6b79,
  2f4e:M:6bb3,2f4f:M:6bcb,2f50:M:6bd4,2f51:M:6bdb,2f52:M:6c0f,2f53:M:6c14,2f54:M:6c34,2f55:M:706b,
  2f56:M:722a,2f57:M:7236,2f58:M:723b,2f59:M:723f,2f5a:M:7247,2f5b:M:7259,2f5c:M:725b,2f5d:M:72ac,
  2f5e:M:7384,2f5f:M:7389,2f60:M:74dc,2f61:M:74e6,2f62:M:7518,2f63:M:751f,2f64:M:7528,2f65:M:7530,
  2f66:M:758b,2f67:M:7592,2f68:M:7676,2f69:M:767d,2f6a:M:76ae,2f6b:M:76bf,2f6c:M:76ee,2f6d:M:77db,
  2f6e:M:77e2,2f6f:M:77f3,2f70:M:793a,2f71:M:79b8,2f72:M:79be,2f73:M:7a74,2f74:M:7acb,2f75:M:7af9,
  2f76:M:7c73,2f77:M:7cf8,2f78:M:7f36,2f79:M:7f51,2f7a:M:7f8a,2f7b:M:7fbd,2f7c:M:8001,2f7d:M:800c,
  2f7e:M:8012,2f7f:M:8033,2f80:M:807f,2f81:M:8089,2f82:M:81e3,2f83:M:81ea,2f84:M:81f3,2f85:M:81fc,
  2f86:M:820c,2f87:M:821b,2f88:M:821f,2f89:M:826e,2f8a:M:8272,2f8b:M:8278,2f8c:M:864d,2f8d:M:866b,
  2f8e:M:8840,2f8f:M:884c,2f90:M:8863,2f91:M:897e,2f92:M:898b,2f93:M:89d2,2f94:M:8a00,2f95:M:8c37,
  2f96:M:8c46,2f97:M:8c55,2f98:M:8c78,2f99:M:8c9d,2f9a:M:8d64,2f9b:M:8d70,2f9c:M:8db3,2f9d:M:8eab,
  2f9e:M:8eca,2f9f:M:8f9b,2fa0:M:8fb0,2fa1:M:8fb5,2fa2:M:9091,2fa3:M:9149,2fa4:M:91c6,2fa5:M:91cc,
  2fa6:M:91d1,2fa7:M:9577,2fa8:M:9580,2fa9:M:961c,2faa:M:96b6,2fab:M:96b9,2fac:M:96e8,2fad:M:9751,
  2fae:M:975e,2faf:M:9762,2fb0:M:9769,2fb1:M:97cb,2fb2:M:97ed,2fb3:M:97f3,2fb4:M:9801,2fb5:M:98a8,
  2fb6:M:98db,2fb7:M:98df,2fb8:M:9996,2fb9:M:9999,2fba:M:99ac,2fbb:M:9aa8,2fbc:M:9ad8,2fbd:M:9adf,
  2fbe:M:9b25,2fbf:M:9b2f,2fc0:M:9b32,2fc1:M:9b3c,2fc2:M:9b5a,2fc3:M:9ce5,2fc4:M:9e75,2fc5:M:9e7f,
  2fc6:M:9ea5,2fc7:M:9ebb,2fc8:M:9ec3,2fc9:M:9ecd,2fca:M:9ed1,2fcb:M:9ef9,2fcc:M:9efd,2fcd:M:9f0e,
  2fce:M:9f13,2fcf:M:9f20,2fd0:M:9f3b,2fd1:M:9f4a,2fd2:M:9f52,2fd3:M:9f8d,2fd4:M:9f9c,2fd5:M:9fa0,
  2fd6:X,3000:M:20,3001:V,3002:M:2e,3003:V,3036:M:3012,3037:V,3038:M:5341,3039:M:5344,303a:M:5345,
  303b:V,3040:X,3041:V,3097:X,3099:V,309b:M:20.3099,309c:M:20.309a,309d:V,309f:M:3088.308a,30a0:V,
  30ff:M:30b3.30c8,3100:X,3105:V,3130:X,3131:M:1100,3132:M:1101,3133:M:11aa,3134:M:1102,
  3135:M:11ac,3136:M:11ad,3137:M:1103,3138:M:1104,3139:M:1105,313a:M:11b0,313b:M:11b1,313c:M:11b2,
  313d:M:11b3,313e:M:11b4,313f:M:11b5,3140:M:111a,3141:M:1106,3142:M:1107,3143:M:1108,3144:M:1121,
  3145:M:1109,3146:M:110a,3147:M:110b,3148:M:110c,3149:M:110d,314a:M:110e,314b:M:110f,314c:M:1110,
  314d:M:1111,314e:M:1112,314f:M:1161,3150:M:1162,3151:M:1163,3152:M:1164,3153:M:1165,3154:M:1166,
  3155:M:1167,3156:M:1168,3157:M:1169,3158:M:116a,3159:M:116b,315a:M:116c,315b:M:116d,315c:M:116e,
  315d:M:116f,315e:M:1170,315f:M:1171,3160:M:1172,3161:M:1173,3162:M:1174,3163:M:1175,3164:I,
  3165:M:1114,3166:M:1115,3167:M:11c7,3168:M:11c8,3169:M:11cc,316a:M:11ce,316b:M:11d3,316c:M:11d7,
  316d:M:11d9,316e:M:111c,316f:M:11dd,3170:M:11df,3171:M:111d,3172:M:111e,3173:M:1120,3174:M:1122,
  3175:M:1123,3176:M:1127,3177:M:1129,3178:M:112b,3179:M:112c,317a:M:112d,317b:M:112e,317c:M:112f,
  317d:M:1132,317e:M:1136,317f:M:1140,3180:M:1147,3181:M:114c,3182:M:11f1,3183:M:11f2,3184:M:1157,
  3185:M:1158,3186:M:1159,3187:M:1184,3188:M:1185,3189:M:1188,318a:M:1191,318b:M:1192,318c:M:1194,
  318d:M:119e,318e:M:11a1,318f:X,3190:V,3192:M:4e00,3193:M:4e8c,3194:M:4e09,3195:M:56db,
  3196:M:4e0a,3197:M:4e2d,3198:M:4e0b,3199:M:7532,319a:M:4e59,319b:M:4e19,319c:M:4e01,319d:M:5929,
  319e:M:5730,319f:M:4eba,31a0:V,31e6:X,31f0:V,3200:M:28.1100.29,3201:M:28.1102.29,
  3202:M:28.1103.29,3203:M:28.1105.29,3204:M:28.1106.29,3205:M:28.1107.29,3206:M:28.1109.29,
  3207:M:28.110b.29,3208:M:28.110c.29,3209:M:28.110e.29,320a:M:28.110f.29,320b:M:28.1110.29,
  320c:M:28.1111.29,320d:M:28.1112.29,320e:M:28.ac00.29,320f:M:28.b098.29,3210:M:28.b2e4.29,
  3211:M:28.b77c.29,3212:M:28.b9c8.29,3213:M:28.bc14.29,3214:M:28.c0ac.29,3215:M:28.c544.29,
  3216:M:28.c790.29,3217:M:28.cc28.29,3218:M:28.ce74.29,3219:M:28.d0c0.29,321a:M:28.d30c.29,
  321b:M:28.d558.29,321c:M:28.c8fc.29,321d:M:28.c624.c804.29,321e:M:28.c624.d6c4.29,321f:X,
  3220:M:28.4e00.29,3221:M:28.4e8c.29,3222:M:28.4e09.29,3223:M:28.56db.29,3224:M:28.4e94.29,
  3225:M:28.516d.29,3226:M:28.4e03.29,3227:M:28.516b.29,3228:M:28.4e5d.29,3229:M:28.5341.29,
  322a:M:28.6708.29,322b:M:28.706b.29,322c:M:28.6c34.29,322d:M:28.6728.29,322e:M:28.91d1.29,
  322f:M:28.571f.29,3230:M:28.65e5.29,3231:M:28.682a.29,3232:M:28.6709.29,3233:M:28.793e.29,
  3234:M:28.540d.29,3235:M:28.7279.29,3236:M:28.8ca1.29,3237:M:28.795d.29,3238:M:28.52b4.29,
  3239:M:28.4ee3.29,323a:M:28.547c.29,323b:M:28.5b66.29,323c:M:28.76e3.29,323d:M:28.4f01.29,
  323e:M:28.8cc7.29,323f:M:28.5354.29,3240:M:28.796d.29,3241:M:28.4f11.29,3242:M:28.81ea.29,
  3243:M:28.81f3.29,3244:M:554f,3245:M:5e7c,3246:M:6587,3247:M:7b8f,3248:V,3250:M:70.74.65,
  3251:M:32.31,3252:M:32.32,3253:M:32.33,3254:M:32.34,3255:M:32.35,3256:M:32.36,3257:M:32.37,
  3258:M:32.38,3259:M:32.39,325a:M:33.30,325b:M:33.31,325c:M:33.32,325d:M:33.33,325e:M:33.34,
  325f:M:33.35,3260:M:1100,3261:M:1102,3262:M:1103,3263:M:1105,3264:M:1106,3265:M:1107,
  3266:M:1109,3267:M:110b,3268:M:110c,3269:M:110e,326a:M:110f,326b:M:1110,326c:M:1111,326d:M:1112,
  326e:M:ac00,326f:M:b098,3270:M:b2e4,3271:M:b77c,3272:M:b9c8,3273:M:bc14,3274:M:c0ac,3275:M:c544,
  3276:M:c790,3277:M:cc28,3278:M:ce74,3279:M:d0c0,327a:M:d30c,327b:M:d558,327c:M:cc38.ace0,
  327d:M:c8fc.c758,327e:M:c6b0,327f:V,3280:M:4e00,3281:M:4e8c,3282:M:4e09,3283:M:56db,3284:M:4e94,
  3285:M:516d,3286:M:4e03,3287:M:516b,3288:M:4e5d,3289:M:5341,328a:M:6708,328b:M:706b,328c:M:6c34,
  328d:M:6728,328e:M:91d1,328f:M:571f,3290:M:65e5,3291:M:682a,3292:M:6709,3293:M:793e,3294:M:540d,
  3295:M:7279,3296:M:8ca1,3297:M:795d,3298:M:52b4,3299:M:79d8,329a:M:7537,329b:M:5973,329c:M:9069,
  329d:M:512a,329e:M:5370,329f:M:6ce8,32a0:M:9805,32a1:M:4f11,32a2:M:5199,32a3:M:6b63,32a4:M:4e0a,
  32a5:M:4e2d,32a6:M:4e0b,32a7:M:5de6,32a8:M:53f3,32a9:M:533b,32aa:M:5b97,32ab:M:5b66,32ac:M:76e3,
  32ad:M:4f01,32ae:M:8cc7,32af:M:5354,32b0:M:591c,32b1:M:33.36,32b2:M:33.37,32b3:M:33.38,
  32b4:M:33.39,32b5:M:34.30,32b6:M:34.31,32b7:M:34.32,32b8:M:34.33,32b9:M:34.34,32ba:M:34.35,
  32bb:M:34.36,32bc:M:34.37,32bd:M:34.38,32be:M:34.39,32bf:M:35.30,32c0:M:31.6708,32c1:M:32.6708,
  32c2:M:33.6708,32c3:M:34.6708,32c4:M:35.6708,32c5:M:36.6708,32c6:M:37.6708,32c7:M:38.6708,
  32c8:M:39.6708,32c9:M:31.30.6708,32ca:M:31.31.6708,32cb:M:31.32.6708,32cc:M:68.67,
  32cd:M:65.72.67,32ce:M:65.76,32cf:M:6c.74.64,32d0:M:30a2,32d1:M:30a4,32d2:M:30a6,32d3:M:30a8,
  32d4:M:30aa,32d5:M:30ab,32d6:M:30ad,32d7:M:30af,32d8:M:30b1,32d9:M:30b3,32da:M:30b5,32db:M:30b7,
  32dc:M:30b9,32dd:M:30bb,32de:M:30bd,32df:M:30bf,32e0:M:30c1,32e1:M:30c4,32e2:M:30c6,32e3:M:30c8,
  32e4:M:30ca,32e5:M:30cb,32e6:M:30cc,32e7:M:30cd,32e8:M:30ce,32e9:M:30cf,32ea:M:30d2,32eb:M:30d5,
  32ec:M:30d8,32ed:M:30db,32ee:M:30de,32ef:M:30df,32f0:M:30e0,32f1:M:30e1,32f2:M:30e2,32f3:M:30e4,
  32f4:M:30e6,32f5:M:30e8,32f6:M:30e9,32f7:M:30ea,32f8:M:30eb,32f9:M:30ec,32fa:M:30ed,32fb:M:30ef,
  32fc:M:30f0,32fd:M:30f1,32fe:M:30f2,32ff:M:4ee4.548c,3300:M:30a2.30d1.30fc.30c8,
  3301:M:30a2.30eb.30d5.30a1,3302:M:30a2.30f3.30da.30a2,3303:M:30a2.30fc.30eb,
  3304:M:30a4.30cb.30f3.30b0,3305:M:30a4.30f3.30c1,3306:M:30a6.30a9.30f3,
  3307:M:30a8.30b9.30af.30fc.30c9,3308:M:30a8.30fc.30ab.30fc,3309:M:30aa.30f3.30b9,
  330a:M:30aa.30fc.30e0,330b:M:30ab.30a4.30ea,330c:M:30ab.30e9.30c3.30c8,
  330d:M:30ab.30ed.30ea.30fc,330e:M:30ac.30ed.30f3,330f:M:30ac.30f3.30de,3310:M:30ae.30ac,
  3311:M:30ae.30cb.30fc,3312:M:30ad.30e5.30ea.30fc,3313:M:30ae.30eb.30c0.30fc,3314:M:30ad.30ed,
  3315:M:30ad.30ed.30b0.30e9.30e0,3316:M:30ad.30ed.30e1.30fc.30c8.30eb,
  3317:M:30ad.30ed.30ef.30c3.30c8,3318:M:30b0.30e9.30e0,3319:M:30b0.30e9.30e0.30c8.30f3,
  331a:M:30af.30eb.30bc.30a4.30ed,331b:M:30af.30ed.30fc.30cd,331c:M:30b1.30fc.30b9,
  331d:M:30b3.30eb.30ca,331e:M:30b3.30fc.30dd,331f:M:30b5.30a4.30af.30eb,
  3320:M:30b5.30f3.30c1.30fc.30e0,3321:M:30b7.30ea.30f3.30b0,3322:M:30bb.30f3.30c1,
  3323:M:30bb.30f3.30c8,3324:M:30c0.30fc.30b9,3325:M:30c7.30b7,3326:M:30c9.30eb,3327:M:30c8.30f3,
  3328:M:30ca.30ce,3329:M:30ce.30c3.30c8,332a:M:30cf.30a4.30c4,332b:M:30d1.30fc.30bb.30f3.30c8,
  332c:M:30d1.30fc.30c4,332d:M:30d0.30fc.30ec.30eb,332e:M:30d4.30a2.30b9.30c8.30eb,
  332f:M:30d4.30af.30eb,3330:M:30d4.30b3,3331:M:30d3.30eb,3332:M:30d5.30a1.30e9.30c3.30c9,
  3333:M:30d5.30a3.30fc.30c8,3334:M:30d6.30c3.30b7.30a7.30eb,3335:M:30d5.30e9.30f3,
  3336:M:30d8.30af.30bf.30fc.30eb,3337:M:30da.30bd,3338:M:30da.30cb.30d2,3339:M:30d8.30eb.30c4,
  333a:M:30da.30f3.30b9,333b:M:30da.30fc.30b8,333c:M:30d9.30fc.30bf,333d:M:30dd.30a4.30f3.30c8,
  333e:M:30dc.30eb.30c8,333f:M:30db.30f3,3340:M:30dd.30f3.30c9,3341:M:30db.30fc.30eb,
  3342:M:30db.30fc.30f3,3343:M:30de.30a4.30af.30ed,3344:M:30de.30a4.30eb,3345:M:30de.30c3.30cf,
  3346:M:30de.30eb.30af,3347:M:30de.30f3.30b7.30e7.30f3,3348:M:30df.30af.30ed.30f3,
  3349:M:30df.30ea,334a:M:30df.30ea.30d0.30fc.30eb,334b:M:30e1.30ac,334c:M:30e1.30ac.30c8.30f3,
  334d:M:30e1.30fc.30c8.30eb,334e:M:30e4.30fc.30c9,334f:M:30e4.30fc.30eb,3350:M:30e6.30a2.30f3,
  3351:M:30ea.30c3.30c8.30eb,3352:M:30ea.30e9,3353:M:30eb.30d4.30fc,3354:M:30eb.30fc.30d6.30eb,
  3355:M:30ec.30e0,3356:M:30ec.30f3.30c8.30b2.30f3,3357:M:30ef.30c3.30c8,3358:M:30.70b9,
  3359:M:31.70b9,335a:M:32.70b9,335b:M:33.70b9,335c:M:34.70b9,335d:M:35.70b9,335e:M:36.70b9,
  335f:M:37.70b9,3360:M:38.70b9,3361:M:39.70b9,3362:M:31.30.70b9,3363:M:31.31.70b9,
  3364:M:31.32.70b9,3365:M:31.33.70b9,3366:M:31.34.70b9,3367:M:31.35.70b9,3368:M:31.36.70b9,
  3369:M:31.37.70b9,336a:M:31.38.70b9,336b:M:31.39.70b9,336c:M:32.30.70b9,336d:M:32.31.70b9,
  336e:M:32.32.70b9,336f:M:32.33.70b9,3370:M:32.34.70b9,3371:M:68.70.61,3372:M:64.61,3373:M:61.75,
  3374:M:62.61.72,3375:M:6f.76,3376:M:70.63,3377:M:64.6d,3378:M:64.6d.32,3379:M:64.6d.33,
  337a:M:69.75,337b:M:5e73.6210,337c:M:662d.548c,337d:M:5927.6b63,337e:M:660e.6cbb,
  337f:M:682a.5f0f.4f1a.793e,3380:M:70.61,3381:M:6e.61,3382:M:3bc.61,3383:M:6d.61,3384:M:6b.61,
  3385:M:6b.62,3386:M:6d.62,3387:M:67.62,3388:M:63.61.6c,3389:M:6b.63.61.6c,338a:M:70.66,
  338b:M:6e.66,338c:M:3bc.66,338d:M:3bc.67,338e:M:6d.67,338f:M:6b.67,3390:M:68.7a,3391:M:6b.68.7a,
  3392:M:6d.68.7a,3393:M:67.68.7a,3394:M:74.68.7a,3395:M:3bc.6c,3396:M:6d.6c,3397:M:64.6c,
  3398:M:6b.6c,3399:M:66.6d,339a:M:6e.6d,339b:M:3bc.6d,339c:M:6d.6d,339d:M:63.6d,339e:M:6b.6d,
  339f:M:6d.6d.32,33a0:M:63.6d.32,33a1:M:6d.32,33a2:M:6b.6d.32,33a3:M:6d.6d.33,33a4:M:63.6d.33,
  33a5:M:6d.33,33a6:M:6b.6d.33,33a7:M:6d.2215.73,33a8:M:6d.2215.73.32,33a9:M:70.61,
  33aa:M:6b.70.61,33ab:M:6d.70.61,33ac:M:67.70.61,33ad:M:72.61.64,33ae:M:72.61.64.2215.73,
  33af:M:72.61.64.2215.73.32,33b0:M:70.73,33b1:M:6e.73,33b2:M:3bc.73,33b3:M:6d.73,33b4:M:70.76,
  33b5:M:6e.76,33b6:M:3bc.76,33b7:M:6d.76,33b8:M:6b.76,33b9:M:6d.76,33ba:M:70.77,33bb:M:6e.77,
  33bc:M:3bc.77,33bd:M:6d.77,33be:M:6b.77,33bf:M:6d.77,33c0:M:6b.3c9,33c1:M:6d.3c9,33c2:X,
  33c3:M:62.71,33c4:M:63.63,33c5:M:63.64,33c6:M:63.2215.6b.67,33c7:X,33c8:M:64.62,33c9:M:67.79,
  33ca:M:68.61,33cb:M:68.70,33cc:M:69.6e,33cd:M:6b.6b,33ce:M:6b.6d,33cf:M:6b.74,33d0:M:6c.6d,
  33d1:M:6c.6e,33d2:M:6c.6f.67,33d3:M:6c.78,33d4:M:6d.62,33d5:M:6d.69.6c,33d6:M:6d.6f.6c,
  33d7:M:70.68,33d8:X,33d9:M:70.70.6d,33da:M:70.72,33db:M:73.72,33dc:M:73.76,33dd:M:77.62,
  33de:M:76.2215.6d,33df:M:61.2215.6d,33e0:M:31.65e5,33e1:M:32.65e5,33e2:M:33.65e5,33e3:M:34.65e5,
  33e4:M:35.65e5,33e5:M:36.65e5,33e6:M:37.65e5,33e7:M:38.65e5,33e8:M:39.65e5,33e9:M:31.30.65e5,
  33ea:M:31.31.65e5,33eb:M:31.32.65e5,33ec:M:31.33.65e5,33ed:M:31.34.65e5,33ee:M:31.35.65e5,
  33ef:M:31.36.65e5,33f0:M:31.37.65e5,33f1:M:31.38.65e5,33f2:M:31.39.65e5,33f3:M:32.30.65e5,
  33f4:M:32.31.65e5,33f5:M:32.32.65e5,33f6:M:32.33.65e5,33f7:M:32.34.65e5,33f8:M:32.35.65e5,
  33f9:M:32.36.65e5,33fa:M:32.37.65e5,33fb:M:32.38.65e5,33fc:M:32.39.65e5,33fd:M:33.30.65e5,
  33fe:M:33.31.65e5,33ff:M:67.61.6c,3400:V,a48d:X,a490:V,a4c7:X,a4d0:V,a62c:X,a640:M:a641,a641:V,
  a642:M:a643,a643:V,a644:M:a645,a645:V,a646:M:a647,a647:V,a648:M:a649,a649:V,a64a:M:a64b,a64b:V,
  a64c:M:a64d,a64d:V,a64e:M:a64f,a64f:V,a650:M:a651,a651:V,a652:M:a653,a653:V,a654:M:a655,a655:V,
  a656:M:a657,a657:V,a658:M:a659,a659:V,a65a:M:a65b,a65b:V,a65c:M:a65d,a65d:V,a65e:M:a65f,a65f:V,
  a660:M:a661,a661:V,a662:M:a663,a663:V,a664:M:a665,a665:V,a666:M:a667,a667:V,a668:M:a669,a669:V,
  a66a:M:a66b,a66b:V,a66c:M:a66d,a66d:V,a680:M:a681,a681:V,a682:M:a683,a683:V,a684:M:a685,a685:V,
  a686:M:a687,a687:V,a688:M:a689,a689:V,a68a:M:a68b,a68b:V,a68c:M:a68d,a68d:V,a68e:M:a68f,a68f:V,
  a690:M:a691,a691:V,a692:M:a693,a693:V,a694:M:a695,a695:V,a696:M:a697,a697:V,a698:M:a699,a699:V,
  a69a:M:a69b,a69b:V,a69c:M:44a,a69d:M:44c,a69e:V,a6f8:X,a700:V,a722:M:a723,a723:V,a724:M:a725,
  a725:V,a726:M:a727,a727:V,a728:M:a729,a729:V,a72a:M:a72b,a72b:V,a72c:M:a72d,a72d:V,a72e:M:a72f,
  a72f:V,a732:M:a733,a733:V,a734:M:a735,a735:V,a736:M:a737,a737:V,a738:M:a739,a739:V,a73a:M:a73b,
  a73b:V,a73c:M:a73d,a73d:V,a73e:M:a73f,a73f:V,a740:M:a741,a741:V,a742:M:a743,a743:V,a744:M:a745,
  a745:V,a746:M:a747,a747:V,a748:M:a749,a749:V,a74a:M:a74b,a74b:V,a74c:M:a74d,a74d:V,a74e:M:a74f,
  a74f:V,a750:M:a751,a751:V,a752:M:a753,a753:V,a754:M:a755,a755:V,a756:M:a757,a757:V,a758:M:a759,
  a759:V,a75a:M:a75b,a75b:V,a75c:M:a75d,a75d:V,a75e:M:a75f,a75f:V,a760:M:a761,a761:V,a762:M:a763,
  a763:V,a764:M:a765,a765:V,a766:M:a767,a767:V,a768:M:a769,a769:V,a76a:M:a76b,a76b:V,a76c:M:a76d,
  a76d:V,a76e:M:a76f,a76f:V,a770:M:a76f,a771:V,a779:M:a77a,a77a:V,a77b:M:a77c,a77c:V,a77d:M:1d79,
  a77e:M:a77f,a77f:V,a780:M:a781,a781:V,a782:M:a783,a783:V,a784:M:a785,a785:V,a786:M:a787,a787:V,
  a78b:M:a78c,a78c:V,a78d:M:265,a78e:V,a790:M:a791,a791:V,a792:M:a793,a793:V,a796:M:a797,a797:V,
  a798:M:a799,a799:V,a79a:M:a79b,a79b:V,a79c:M:a79d,a79d:V,a79e:M:a79f,a79f:V,a7a0:M:a7a1,a7a1:V,
  a7a2:M:a7a3,a7a3:V,a7a4:M:a7a5,a7a5:V,a7a6:M:a7a7,a7a7:V,a7a8:M:a7a9,a7a9:V,a7aa:M:266,
  a7ab:M:25c,a7ac:M:261,a7ad:M:26c,a7ae:M:26a,a7af:V,a7b0:M:29e,a7b1:M:287,a7b2:M:29d,a7b3:M:ab53,
  a7b4:M:a7b5,a7b5:V,a7b6:M:a7b7,a7b7:V,a7b8:M:a7b9,a7b9:V,a7ba:M:a7bb,a7bb:V,a7bc:M:a7bd,a7bd:V,
  a7be:M:a7bf,a7bf:V,a7c0:M:a7c1,a7c1:V,a7c2:M:a7c3,a7c3:V,a7c4:M:a794,a7c5:M:282,a7c6:M:1d8e,
  a7c7:M:a7c8,a7c8:V,a7c9:M:a7ca,a7ca:V,a7cb:M:264,a7cc:M:a7cd,a7cd:V,a7ce:M:a7cf,a7cf:V,
  a7d0:M:a7d1,a7d1:V,a7d2:M:a7d3,a7d3:V,a7d4:M:a7d5,a7d5:V,a7d6:M:a7d7,a7d7:V,a7d8:M:a7d9,a7d9:V,
  a7da:M:a7db,a7db:V,a7dc:M:19b,a7dd:X,a7f1:M:73,a7f2:M:63,a7f3:M:66,a7f4:M:71,a7f5:M:a7f6,a7f6:V,
  a7f8:M:127,a7f9:M:153,a7fa:V,a82d:X,a830:V,a83a:X,a840:V,a878:X,a880:V,a8c6:X,a8ce:V,a8da:X,
  a8e0:V,a954:X,a95f:V,a97d:X,a980:V,a9ce:X,a9cf:V,a9da:X,a9de:V,a9ff:X,aa00:V,aa37:X,aa40:V,
  aa4e:X,aa50:V,aa5a:X,aa5c:V,aac3:X,aadb:V,aaf7:X,ab01:V,ab07:X,ab09:V,ab0f:X,ab11:V,ab17:X,
  ab20:V,ab27:X,ab28:V,ab2f:X,ab30:V,ab5c:M:a727,ab5d:M:ab37,ab5e:M:26b,ab5f:M:ab52,ab60:V,
  ab69:M:28d,ab6a:V,ab6c:X,ab70:M:13a0,ab71:M:13a1,ab72:M:13a2,ab73:M:13a3,ab74:M:13a4,
  ab75:M:13a5,ab76:M:13a6,ab77:M:13a7,ab78:M:13a8,ab79:M:13a9,ab7a:M:13aa,ab7b:M:13ab,ab7c:M:13ac,
  ab7d:M:13ad,ab7e:M:13ae,ab7f:M:13af,ab80:M:13b0,ab81:M:13b1,ab82:M:13b2,ab83:M:13b3,ab84:M:13b4,
  ab85:M:13b5,ab86:M:13b6,ab87:M:13b7,ab88:M:13b8,ab89:M:13b9,ab8a:M:13ba,ab8b:M:13bb,ab8c:M:13bc,
  ab8d:M:13bd,ab8e:M:13be,ab8f:M:13bf,ab90:M:13c0,ab91:M:13c1,ab92:M:13c2,ab93:M:13c3,ab94:M:13c4,
  ab95:M:13c5,ab96:M:13c6,ab97:M:13c7,ab98:M:13c8,ab99:M:13c9,ab9a:M:13ca,ab9b:M:13cb,ab9c:M:13cc,
  ab9d:M:13cd,ab9e:M:13ce,ab9f:M:13cf,aba0:M:13d0,aba1:M:13d1,aba2:M:13d2,aba3:M:13d3,aba4:M:13d4,
  aba5:M:13d5,aba6:M:13d6,aba7:M:13d7,aba8:M:13d8,aba9:M:13d9,abaa:M:13da,abab:M:13db,abac:M:13dc,
  abad:M:13dd,abae:M:13de,abaf:M:13df,abb0:M:13e0,abb1:M:13e1,abb2:M:13e2,abb3:M:13e3,abb4:M:13e4,
  abb5:M:13e5,abb6:M:13e6,abb7:M:13e7,abb8:M:13e8,abb9:M:13e9,abba:M:13ea,abbb:M:13eb,abbc:M:13ec,
  abbd:M:13ed,abbe:M:13ee,abbf:M:13ef,abc0:V,abee:X,abf0:V,abfa:X,ac00:V,d7a4:X,d7b0:V,d7c7:X,
  d7cb:V,d7fc:X,f900:M:8c48,f901:M:66f4,f902:M:8eca,f903:M:8cc8,f904:M:6ed1,f905:M:4e32,
  f906:M:53e5,f907:M:9f9c,f909:M:5951,f90a:M:91d1,f90b:M:5587,f90c:M:5948,f90d:M:61f6,f90e:M:7669,
  f90f:M:7f85,f910:M:863f,f911:M:87ba,f912:M:88f8,f913:M:908f,f914:M:6a02,f915:M:6d1b,f916:M:70d9,
  f917:M:73de,f918:M:843d,f919:M:916a,f91a:M:99f1,f91b:M:4e82,f91c:M:5375,f91d:M:6b04,f91e:M:721b,
  f91f:M:862d,f920:M:9e1e,f921:M:5d50,f922:M:6feb,f923:M:85cd,f924:M:8964,f925:M:62c9,f926:M:81d8,
  f927:M:881f,f928:M:5eca,f929:M:6717,f92a:M:6d6a,f92b:M:72fc,f92c:M:90ce,f92d:M:4f86,f92e:M:51b7,
  f92f:M:52de,f930:M:64c4,f931:M:6ad3,f932:M:7210,f933:M:76e7,f934:M:8001,f935:M:8606,f936:M:865c,
  f937:M:8def,f938:M:9732,f939:M:9b6f,f93a:M:9dfa,f93b:M:788c,f93c:M:797f,f93d:M:7da0,f93e:M:83c9,
  f93f:M:9304,f940:M:9e7f,f941:M:8ad6,f942:M:58df,f943:M:5f04,f944:M:7c60,f945:M:807e,f946:M:7262,
  f947:M:78ca,f948:M:8cc2,f949:M:96f7,f94a:M:58d8,f94b:M:5c62,f94c:M:6a13,f94d:M:6dda,f94e:M:6f0f,
  f94f:M:7d2f,f950:M:7e37,f951:M:964b,f952:M:52d2,f953:M:808b,f954:M:51dc,f955:M:51cc,f956:M:7a1c,
  f957:M:7dbe,f958:M:83f1,f959:M:9675,f95a:M:8b80,f95b:M:62cf,f95c:M:6a02,f95d:M:8afe,f95e:M:4e39,
  f95f:M:5be7,f960:M:6012,f961:M:7387,f962:M:7570,f963:M:5317,f964:M:78fb,f965:M:4fbf,f966:M:5fa9,
  f967:M:4e0d,f968:M:6ccc,f969:M:6578,f96a:M:7d22,f96b:M:53c3,f96c:M:585e,f96d:M:7701,f96e:M:8449,
  f96f:M:8aaa,f970:M:6bba,f971:M:8fb0,f972:M:6c88,f973:M:62fe,f974:M:82e5,f975:M:63a0,f976:M:7565,
  f977:M:4eae,f978:M:5169,f979:M:51c9,f97a:M:6881,f97b:M:7ce7,f97c:M:826f,f97d:M:8ad2,f97e:M:91cf,
  f97f:M:52f5,f980:M:5442,f981:M:5973,f982:M:5eec,f983:M:65c5,f984:M:6ffe,f985:M:792a,f986:M:95ad,
  f987:M:9a6a,f988:M:9e97,f989:M:9ece,f98a:M:529b,f98b:M:66c6,f98c:M:6b77,f98d:M:8f62,f98e:M:5e74,
  f98f:M:6190,f990:M:6200,f991:M:649a,f992:M:6f23,f993:M:7149,f994:M:7489,f995:M:79ca,f996:M:7df4,
  f997:M:806f,f998:M:8f26,f999:M:84ee,f99a:M:9023,f99b:M:934a,f99c:M:5217,f99d:M:52a3,f99e:M:54bd,
  f99f:M:70c8,f9a0:M:88c2,f9a1:M:8aaa,f9a2:M:5ec9,f9a3:M:5ff5,f9a4:M:637b,f9a5:M:6bae,f9a6:M:7c3e,
  f9a7:M:7375,f9a8:M:4ee4,f9a9:M:56f9,f9aa:M:5be7,f9ab:M:5dba,f9ac:M:601c,f9ad:M:73b2,f9ae:M:7469,
  f9af:M:7f9a,f9b0:M:8046,f9b1:M:9234,f9b2:M:96f6,f9b3:M:9748,f9b4:M:9818,f9b5:M:4f8b,f9b6:M:79ae,
  f9b7:M:91b4,f9b8:M:96b8,f9b9:M:60e1,f9ba:M:4e86,f9bb:M:50da,f9bc:M:5bee,f9bd:M:5c3f,f9be:M:6599,
  f9bf:M:6a02,f9c0:M:71ce,f9c1:M:7642,f9c2:M:84fc,f9c3:M:907c,f9c4:M:9f8d,f9c5:M:6688,f9c6:M:962e,
  f9c7:M:5289,f9c8:M:677b,f9c9:M:67f3,f9ca:M:6d41,f9cb:M:6e9c,f9cc:M:7409,f9cd:M:7559,f9ce:M:786b,
  f9cf:M:7d10,f9d0:M:985e,f9d1:M:516d,f9d2:M:622e,f9d3:M:9678,f9d4:M:502b,f9d5:M:5d19,f9d6:M:6dea,
  f9d7:M:8f2a,f9d8:M:5f8b,f9d9:M:6144,f9da:M:6817,f9db:M:7387,f9dc:M:9686,f9dd:M:5229,f9de:M:540f,
  f9df:M:5c65,f9e0:M:6613,f9e1:M:674e,f9e2:M:68a8,f9e3:M:6ce5,f9e4:M:7406,f9e5:M:75e2,f9e6:M:7f79,
  f9e7:M:88cf,f9e8:M:88e1,f9e9:M:91cc,f9ea:M:96e2,f9eb:M:533f,f9ec:M:6eba,f9ed:M:541d,f9ee:M:71d0,
  f9ef:M:7498,f9f0:M:85fa,f9f1:M:96a3,f9f2:M:9c57,f9f3:M:9e9f,f9f4:M:6797,f9f5:M:6dcb,f9f6:M:81e8,
  f9f7:M:7acb,f9f8:M:7b20,f9f9:M:7c92,f9fa:M:72c0,f9fb:M:7099,f9fc:M:8b58,f9fd:M:4ec0,f9fe:M:8336,
  f9ff:M:523a,fa00:M:5207,fa01:M:5ea6,fa02:M:62d3,fa03:M:7cd6,fa04:M:5b85,fa05:M:6d1e,fa06:M:66b4,
  fa07:M:8f3b,fa08:M:884c,fa09:M:964d,fa0a:M:898b,fa0b:M:5ed3,fa0c:M:5140,fa0d:M:55c0,fa0e:V,
  fa10:M:585a,fa11:V,fa12:M:6674,fa13:V,fa15:M:51de,fa16:M:732a,fa17:M:76ca,fa18:M:793c,
  fa19:M:795e,fa1a:M:7965,fa1b:M:798f,fa1c:M:9756,fa1d:M:7cbe,fa1e:M:7fbd,fa1f:V,fa20:M:8612,
  fa21:V,fa22:M:8af8,fa23:V,fa25:M:9038,fa26:M:90fd,fa27:V,fa2a:M:98ef,fa2b:M:98fc,fa2c:M:9928,
  fa2d:M:9db4,fa2e:M:90de,fa2f:M:96b7,fa30:M:4fae,fa31:M:50e7,fa32:M:514d,fa33:M:52c9,fa34:M:52e4,
  fa35:M:5351,fa36:M:559d,fa37:M:5606,fa38:M:5668,fa39:M:5840,fa3a:M:58a8,fa3b:M:5c64,fa3c:M:5c6e,
  fa3d:M:6094,fa3e:M:6168,fa3f:M:618e,fa40:M:61f2,fa41:M:654f,fa42:M:65e2,fa43:M:6691,fa44:M:6885,
  fa45:M:6d77,fa46:M:6e1a,fa47:M:6f22,fa48:M:716e,fa49:M:722b,fa4a:M:7422,fa4b:M:7891,fa4c:M:793e,
  fa4d:M:7949,fa4e:M:7948,fa4f:M:7950,fa50:M:7956,fa51:M:795d,fa52:M:798d,fa53:M:798e,fa54:M:7a40,
  fa55:M:7a81,fa56:M:7bc0,fa57:M:7df4,fa58:M:7e09,fa59:M:7e41,fa5a:M:7f72,fa5b:M:8005,fa5c:M:81ed,
  fa5d:M:8279,fa5f:M:8457,fa60:M:8910,fa61:M:8996,fa62:M:8b01,fa63:M:8b39,fa64:M:8cd3,fa65:M:8d08,
  fa66:M:8fb6,fa67:M:9038,fa68:M:96e3,fa69:M:97ff,fa6a:M:983b,fa6b:M:6075,fa6c:M:242ee,
  fa6d:M:8218,fa6e:X,fa70:M:4e26,fa71:M:51b5,fa72:M:5168,fa73:M:4f80,fa74:M:5145,fa75:M:5180,
  fa76:M:52c7,fa77:M:52fa,fa78:M:559d,fa79:M:5555,fa7a:M:5599,fa7b:M:55e2,fa7c:M:585a,fa7d:M:58b3,
  fa7e:M:5944,fa7f:M:5954,fa80:M:5a62,fa81:M:5b28,fa82:M:5ed2,fa83:M:5ed9,fa84:M:5f69,fa85:M:5fad,
  fa86:M:60d8,fa87:M:614e,fa88:M:6108,fa89:M:618e,fa8a:M:6160,fa8b:M:61f2,fa8c:M:6234,fa8d:M:63c4,
  fa8e:M:641c,fa8f:M:6452,fa90:M:6556,fa91:M:6674,fa92:M:6717,fa93:M:671b,fa94:M:6756,fa95:M:6b79,
  fa96:M:6bba,fa97:M:6d41,fa98:M:6edb,fa99:M:6ecb,fa9a:M:6f22,fa9b:M:701e,fa9c:M:716e,fa9d:M:77a7,
  fa9e:M:7235,fa9f:M:72af,faa0:M:732a,faa1:M:7471,faa2:M:7506,faa3:M:753b,faa4:M:761d,faa5:M:761f,
  faa6:M:76ca,faa7:M:76db,faa8:M:76f4,faa9:M:774a,faaa:M:7740,faab:M:78cc,faac:M:7ab1,faad:M:7bc0,
  faae:M:7c7b,faaf:M:7d5b,fab0:M:7df4,fab1:M:7f3e,fab2:M:8005,fab3:M:8352,fab4:M:83ef,fab5:M:8779,
  fab6:M:8941,fab7:M:8986,fab8:M:8996,fab9:M:8abf,faba:M:8af8,fabb:M:8acb,fabc:M:8b01,fabd:M:8afe,
  fabe:M:8aed,fabf:M:8b39,fac0:M:8b8a,fac1:M:8d08,fac2:M:8f38,fac3:M:9072,fac4:M:9199,fac5:M:9276,
  fac6:M:967c,fac7:M:96e3,fac8:M:9756,fac9:M:97db,faca:M:97ff,facb:M:980b,facc:M:983b,facd:M:9b12,
  face:M:9f9c,facf:M:2284a,fad0:M:22844,fad1:M:233d5,fad2:M:3b9d,fad3:M:4018,fad4:M:4039,
  fad5:M:25249,fad6:M:25cd0,fad7:M:27ed3,fad8:M:9f43,fad9:M:9f8e,fada:X,fb00:M:66.66,fb01:M:66.69,
  fb02:M:66.6c,fb03:M:66.66.69,fb04:M:66.66.6c,fb05:M:73.74,fb07:X,fb13:M:574.576,fb14:M:574.565,
  fb15:M:574.56b,fb16:M:57e.576,fb17:M:574.56d,fb18:X,fb1d:M:5d9.5b4,fb1e:V,fb1f:M:5f2.5b7,
  fb20:M:5e2,fb21:M:5d0,fb22:M:5d3,fb23:M:5d4,fb24:M:5db,fb25:M:5dc,fb26:M:5dd,fb27:M:5e8,
  fb28:M:5ea,fb29:M:2b,fb2a:M:5e9.5c1,fb2b:M:5e9.5c2,fb2c:M:5e9.5bc.5c1,fb2d:M:5e9.5bc.5c2,
  fb2e:M:5d0.5b7,fb2f:M:5d0.5b8,fb30:M:5d0.5bc,fb31:M:5d1.5bc,fb32:M:5d2.5bc,fb33:M:5d3.5bc,
  fb34:M:5d4.5bc,fb35:M:5d5.5bc,fb36:M:5d6.5bc,fb37:X,fb38:M:5d8.5bc,fb39:M:5d9.5bc,
  fb3a:M:5da.5bc,fb3b:M:5db.5bc,fb3c:M:5dc.5bc,fb3d:X,fb3e:M:5de.5bc,fb3f:X,fb40:M:5e0.5bc,
  fb41:M:5e1.5bc,fb42:X,fb43:M:5e3.5bc,fb44:M:5e4.5bc,fb45:X,fb46:M:5e6.5bc,fb47:M:5e7.5bc,
  fb48:M:5e8.5bc,fb49:M:5e9.5bc,fb4a:M:5ea.5bc,fb4b:M:5d5.5b9,fb4c:M:5d1.5bf,fb4d:M:5db.5bf,
  fb4e:M:5e4.5bf,fb4f:M:5d0.5dc,fb50:M:671,fb52:M:67b,fb56:M:67e,fb5a:M:680,fb5e:M:67a,fb62:M:67f,
  fb66:M:679,fb6a:M:6a4,fb6e:M:6a6,fb72:M:684,fb76:M:683,fb7a:M:686,fb7e:M:687,fb82:M:68d,
  fb84:M:68c,fb86:M:68e,fb88:M:688,fb8a:M:698,fb8c:M:691,fb8e:M:6a9,fb92:M:6af,fb96:M:6b3,
  fb9a:M:6b1,fb9e:M:6ba,fba0:M:6bb,fba4:M:6c0,fba6:M:6c1,fbaa:M:6be,fbae:M:6d2,fbb0:M:6d3,fbb2:V,
  fbd3:M:6ad,fbd7:M:6c7,fbd9:M:6c6,fbdb:M:6c8,fbdd:M:6c7.674,fbde:M:6cb,fbe0:M:6c5,fbe2:M:6c9,
  fbe4:M:6d0,fbe8:M:649,fbea:M:626.627,fbec:M:626.6d5,fbee:M:626.648,fbf0:M:626.6c7,
  fbf2:M:626.6c6,fbf4:M:626.6c8,fbf6:M:626.6d0,fbf9:M:626.649,fbfc:M:6cc,fc00:M:626.62c,
  fc01:M:626.62d,fc02:M:626.645,fc03:M:626.649,fc04:M:626.64a,fc05:M:628.62c,fc06:M:628.62d,
  fc07:M:628.62e,fc08:M:628.645,fc09:M:628.649,fc0a:M:628.64a,fc0b:M:62a.62c,fc0c:M:62a.62d,
  fc0d:M:62a.62e,fc0e:M:62a.645,fc0f:M:62a.649,fc10:M:62a.64a,fc11:M:62b.62c,fc12:M:62b.645,
  fc13:M:62b.649,fc14:M:62b.64a,fc15:M:62c.62d,fc16:M:62c.645,fc17:M:62d.62c,fc18:M:62d.645,
  fc19:M:62e.62c,fc1a:M:62e.62d,fc1b:M:62e.645,fc1c:M:633.62c,fc1d:M:633.62d,fc1e:M:633.62e,
  fc1f:M:633.645,fc20:M:635.62d,fc21:M:635.645,fc22:M:636.62c,fc23:M:636.62d,fc24:M:636.62e,
  fc25:M:636.645,fc26:M:637.62d,fc27:M:637.645,fc28:M:638.645,fc29:M:639.62c,fc2a:M:639.645,
  fc2b:M:63a.62c,fc2c:M:63a.645,fc2d:M:641.62c,fc2e:M:641.62d,fc2f:M:641.62e,fc30:M:641.645,
  fc31:M:641.649,fc32:M:641.64a,fc33:M:642.62d,fc34:M:642.645,fc35:M:642.649,fc36:M:642.64a,
  fc37:M:643.627,fc38:M:643.62c,fc39:M:643.62d,fc3a:M:643.62e,fc3b:M:643.644,fc3c:M:643.645,
  fc3d:M:643.649,fc3e:M:643.64a,fc3f:M:644.62c,fc40:M:644.62d,fc41:M:644.62e,fc42:M:644.645,
  fc43:M:644.649,fc44:M:644.64a,fc45:M:645.62c,fc46:M:645.62d,fc47:M:645.62e,fc48:M:645.645,
  fc49:M:645.649,fc4a:M:645.64a,fc4b:M:646.62c,fc4c:M:646.62d,fc4d:M:646.62e,fc4e:M:646.645,
  fc4f:M:646.649,fc50:M:646.64a,fc51:M:647.62c,fc52:M:647.645,fc53:M:647.649,fc54:M:647.64a,
  fc55:M:64a.62c,fc56:M:64a.62d,fc57:M:64a.62e,fc58:M:64a.645,fc59:M:64a.649,fc5a:M:64a.64a,
  fc5b:M:630.670,fc5c:M:631.670,fc5d:M:649.670,fc5e:M:20.64c.651,fc5f:M:20.64d.651,
  fc60:M:20.64e.651,fc61:M:20.64f.651,fc62:M:20.650.651,fc63:M:20.651.670,fc64:M:626.631,
  fc65:M:626.632,fc66:M:626.645,fc67:M:626.646,fc68:M:626.649,fc69:M:626.64a,fc6a:M:628.631,
  fc6b:M:628.632,fc6c:M:628.645,fc6d:M:628.646,fc6e:M:628.649,fc6f:M:628.64a,fc70:M:62a.631,
  fc71:M:62a.632,fc72:M:62a.645,fc73:M:62a.646,fc74:M:62a.649,fc75:M:62a.64a,fc76:M:62b.631,
  fc77:M:62b.632,fc78:M:62b.645,fc79:M:62b.646,fc7a:M:62b.649,fc7b:M:62b.64a,fc7c:M:641.649,
  fc7d:M:641.64a,fc7e:M:642.649,fc7f:M:642.64a,fc80:M:643.627,fc81:M:643.644,fc82:M:643.645,
  fc83:M:643.649,fc84:M:643.64a,fc85:M:644.645,fc86:M:644.649,fc87:M:644.64a,fc88:M:645.627,
  fc89:M:645.645,fc8a:M:646.631,fc8b:M:646.632,fc8c:M:646.645,fc8d:M:646.646,fc8e:M:646.649,
  fc8f:M:646.64a,fc90:M:649.670,fc91:M:64a.631,fc92:M:64a.632,fc93:M:64a.645,fc94:M:64a.646,
  fc95:M:64a.649,fc96:M:64a.64a,fc97:M:626.62c,fc98:M:626.62d,fc99:M:626.62e,fc9a:M:626.645,
  fc9b:M:626.647,fc9c:M:628.62c,fc9d:M:628.62d,fc9e:M:628.62e,fc9f:M:628.645,fca0:M:628.647,
  fca1:M:62a.62c,fca2:M:62a.62d,fca3:M:62a.62e,fca4:M:62a.645,fca5:M:62a.647,fca6:M:62b.645,
  fca7:M:62c.62d,fca8:M:62c.645,fca9:M:62d.62c,fcaa:M:62d.645,fcab:M:62e.62c,fcac:M:62e.645,
  fcad:M:633.62c,fcae:M:633.62d,fcaf:M:633.62e,fcb0:M:633.645,fcb1:M:635.62d,fcb2:M:635.62e,
  fcb3:M:635.645,fcb4:M:636.62c,fcb5:M:636.62d,fcb6:M:636.62e,fcb7:M:636.645,fcb8:M:637.62d,
  fcb9:M:638.645,fcba:M:639.62c,fcbb:M:639.645,fcbc:M:63a.62c,fcbd:M:63a.645,fcbe:M:641.62c,
  fcbf:M:641.62d,fcc0:M:641.62e,fcc1:M:641.645,fcc2:M:642.62d,fcc3:M:642.645,fcc4:M:643.62c,
  fcc5:M:643.62d,fcc6:M:643.62e,fcc7:M:643.644,fcc8:M:643.645,fcc9:M:644.62c,fcca:M:644.62d,
  fccb:M:644.62e,fccc:M:644.645,fccd:M:644.647,fcce:M:645.62c,fccf:M:645.62d,fcd0:M:645.62e,
  fcd1:M:645.645,fcd2:M:646.62c,fcd3:M:646.62d,fcd4:M:646.62e,fcd5:M:646.645,fcd6:M:646.647,
  fcd7:M:647.62c,fcd8:M:647.645,fcd9:M:647.670,fcda:M:64a.62c,fcdb:M:64a.62d,fcdc:M:64a.62e,
  fcdd:M:64a.645,fcde:M:64a.647,fcdf:M:626.645,fce0:M:626.647,fce1:M:628.645,fce2:M:628.647,
  fce3:M:62a.645,fce4:M:62a.647,fce5:M:62b.645,fce6:M:62b.647,fce7:M:633.645,fce8:M:633.647,
  fce9:M:634.645,fcea:M:634.647,fceb:M:643.644,fcec:M:643.645,fced:M:644.645,fcee:M:646.645,
  fcef:M:646.647,fcf0:M:64a.645,fcf1:M:64a.647,fcf2:M:640.64e.651,fcf3:M:640.64f.651,
  fcf4:M:640.650.651,fcf5:M:637.649,fcf6:M:637.64a,fcf7:M:639.649,fcf8:M:639.64a,fcf9:M:63a.649,
  fcfa:M:63a.64a,fcfb:M:633.649,fcfc:M:633.64a,fcfd:M:634.649,fcfe:M:634.64a,fcff:M:62d.649,
  fd00:M:62d.64a,fd01:M:62c.649,fd02:M:62c.64a,fd03:M:62e.649,fd04:M:62e.64a,fd05:M:635.649,
  fd06:M:635.64a,fd07:M:636.649,fd08:M:636.64a,fd09:M:634.62c,fd0a:M:634.62d,fd0b:M:634.62e,
  fd0c:M:634.645,fd0d:M:634.631,fd0e:M:633.631,fd0f:M:635.631,fd10:M:636.631,fd11:M:637.649,
  fd12:M:637.64a,fd13:M:639.649,fd14:M:639.64a,fd15:M:63a.649,fd16:M:63a.64a,fd17:M:633.649,
  fd18:M:633.64a,fd19:M:634.649,fd1a:M:634.64a,fd1b:M:62d.649,fd1c:M:62d.64a,fd1d:M:62c.649,
  fd1e:M:62c.64a,fd1f:M:62e.649,fd20:M:62e.64a,fd21:M:635.649,fd22:M:635.64a,fd23:M:636.649,
  fd24:M:636.64a,fd25:M:634.62c,fd26:M:634.62d,fd27:M:634.62e,fd28:M:634.645,fd29:M:634.631,
  fd2a:M:633.631,fd2b:M:635.631,fd2c:M:636.631,fd2d:M:634.62c,fd2e:M:634.62d,fd2f:M:634.62e,
  fd30:M:634.645,fd31:M:633.647,fd32:M:634.647,fd33:M:637.645,fd34:M:633.62c,fd35:M:633.62d,
  fd36:M:633.62e,fd37:M:634.62c,fd38:M:634.62d,fd39:M:634.62e,fd3a:M:637.645,fd3b:M:638.645,
  fd3c:M:627.64b,fd3e:V,fd50:M:62a.62c.645,fd51:M:62a.62d.62c,fd53:M:62a.62d.645,
  fd54:M:62a.62e.645,fd55:M:62a.645.62c,fd56:M:62a.645.62d,fd57:M:62a.645.62e,fd58:M:62c.645.62d,
  fd5a:M:62d.645.64a,fd5b:M:62d.645.649,fd5c:M:633.62d.62c,fd5d:M:633.62c.62d,fd5e:M:633.62c.649,
  fd5f:M:633.645.62d,fd61:M:633.645.62c,fd62:M:633.645.645,fd64:M:635.62d.62d,fd66:M:635.645.645,
  fd67:M:634.62d.645,fd69:M:634.62c.64a,fd6a:M:634.645.62e,fd6c:M:634.645.645,fd6e:M:636.62d.649,
  fd6f:M:636.62e.645,fd71:M:637.645.62d,fd73:M:637.645.645,fd74:M:637.645.64a,fd75:M:639.62c.645,
  fd76:M:639.645.645,fd78:M:639.645.649,fd79:M:63a.645.645,fd7a:M:63a.645.64a,fd7b:M:63a.645.649,
  fd7c:M:641.62e.645,fd7e:M:642.645.62d,fd7f:M:642.645.645,fd80:M:644.62d.645,fd81:M:644.62d.64a,
  fd82:M:644.62d.649,fd83:M:644.62c.62c,fd85:M:644.62e.645,fd87:M:644.645.62d,fd89:M:645.62d.62c,
  fd8a:M:645.62d.645,fd8b:M:645.62d.64a,fd8c:M:645.62c.62d,fd8d:M:645.62c.645,fd8e:M:645.62e.62c,
  fd8f:M:645.62e.645,fd90:V,fd92:M:645.62c.62e,fd93:M:647.645.62c,fd94:M:647.645.645,
  fd95:M:646.62d.645,fd96:M:646.62d.649,fd97:M:646.62c.645,fd99:M:646.62c.649,fd9a:M:646.645.64a,
  fd9b:M:646.645.649,fd9c:M:64a.645.645,fd9e:M:628.62e.64a,fd9f:M:62a.62c.64a,fda0:M:62a.62c.649,
  fda1:M:62a.62e.64a,fda2:M:62a.62e.649,fda3:M:62a.645.64a,fda4:M:62a.645.649,fda5:M:62c.645.64a,
  fda6:M:62c.62d.649,fda7:M:62c.645.649,fda8:M:633.62e.649,fda9:M:635.62d.64a,fdaa:M:634.62d.64a,
  fdab:M:636.62d.64a,fdac:M:644.62c.64a,fdad:M:644.645.64a,fdae:M:64a.62d.64a,fdaf:M:64a.62c.64a,
  fdb0:M:64a.645.64a,fdb1:M:645.645.64a,fdb2:M:642.645.64a,fdb3:M:646.62d.64a,fdb4:M:642.645.62d,
  fdb5:M:644.62d.645,fdb6:M:639.645.64a,fdb7:M:643.645.64a,fdb8:M:646.62c.62d,fdb9:M:645.62e.64a,
  fdba:M:644.62c.645,fdbb:M:643.645.645,fdbc:M:644.62c.645,fdbd:M:646.62c.62d,fdbe:M:62c.62d.64a,
  fdbf:M:62d.62c.64a,fdc0:M:645.62c.64a,fdc1:M:641.645.64a,fdc2:M:628.62d.64a,fdc3:M:643.645.645,
  fdc4:M:639.62c.645,fdc5:M:635.645.645,fdc6:M:633.62e.64a,fdc7:M:646.62c.64a,fdc8:V,fdd0:X,
  fdf0:M:635.644.6d2,fdf1:M:642.644.6d2,fdf2:M:627.644.644.647,fdf3:M:627.643.628.631,
  fdf4:M:645.62d.645.62f,fdf5:M:635.644.639.645,fdf6:M:631.633.648.644,fdf7:M:639.644.64a.647,
  fdf8:M:648.633.644.645,fdf9:M:635.644.649,
  fdfa:M:635.644.649.20.627.644.644.647.20.639.644.64a.647.20.648.633.644.645,
  fdfb:M:62c.644.20.62c.644.627.644.647,fdfc:M:631.6cc.627.644,fdfd:V,fe00:I,fe10:M:2c,
  fe11:M:3001,fe12:X,fe13:M:3a,fe14:M:3b,fe15:M:21,fe16:M:3f,fe17:M:3016,fe18:M:3017,fe19:X,
  fe20:V,fe30:X,fe31:M:2014,fe32:M:2013,fe33:M:5f,fe35:M:28,fe36:M:29,fe37:M:7b,fe38:M:7d,
  fe39:M:3014,fe3a:M:3015,fe3b:M:3010,fe3c:M:3011,fe3d:M:300a,fe3e:M:300b,fe3f:M:3008,fe40:M:3009,
  fe41:M:300c,fe42:M:300d,fe43:M:300e,fe44:M:300f,fe45:V,fe47:M:5b,fe48:M:5d,fe49:M:20.305,
  fe4d:M:5f,fe50:M:2c,fe51:M:3001,fe52:X,fe54:M:3b,fe55:M:3a,fe56:M:3f,fe57:M:21,fe58:M:2014,
  fe59:M:28,fe5a:M:29,fe5b:M:7b,fe5c:M:7d,fe5d:M:3014,fe5e:M:3015,fe5f:M:23,fe60:M:26,fe61:M:2a,
  fe62:M:2b,fe63:M:2d,fe64:M:3c,fe65:M:3e,fe66:M:3d,fe67:X,fe68:M:5c,fe69:M:24,fe6a:M:25,
  fe6b:M:40,fe6c:X,fe70:M:20.64b,fe71:M:640.64b,fe72:M:20.64c,fe73:V,fe74:M:20.64d,fe75:X,
  fe76:M:20.64e,fe77:M:640.64e,fe78:M:20.64f,fe79:M:640.64f,fe7a:M:20.650,fe7b:M:640.650,
  fe7c:M:20.651,fe7d:M:640.651,fe7e:M:20.652,fe7f:M:640.652,fe80:M:621,fe81:M:622,fe83:M:623,
  fe85:M:624,fe87:M:625,fe89:M:626,fe8d:M:627,fe8f:M:628,fe93:M:629,fe95:M:62a,fe99:M:62b,
  fe9d:M:62c,fea1:M:62d,fea5:M:62e,fea9:M:62f,feab:M:630,fead:M:631,feaf:M:632,feb1:M:633,
  feb5:M:634,feb9:M:635,febd:M:636,fec1:M:637,fec5:M:638,fec9:M:639,fecd:M:63a,fed1:M:641,
  fed5:M:642,fed9:M:643,fedd:M:644,fee1:M:645,fee5:M:646,fee9:M:647,feed:M:648,feef:M:649,
  fef1:M:64a,fef5:M:644.622,fef7:M:644.623,fef9:M:644.625,fefb:M:644.627,fefd:X,feff:I,ff00:X,
  ff01:M:21,ff02:M:22,ff03:M:23,ff04:M:24,ff05:M:25,ff06:M:26,ff07:M:27,ff08:M:28,ff09:M:29,
  ff0a:M:2a,ff0b:M:2b,ff0c:M:2c,ff0d:M:2d,ff0e:M:2e,ff0f:M:2f,ff10:M:30,ff11:M:31,ff12:M:32,
  ff13:M:33,ff14:M:34,ff15:M:35,ff16:M:36,ff17:M:37,ff18:M:38,ff19:M:39,ff1a:M:3a,ff1b:M:3b,
  ff1c:M:3c,ff1d:M:3d,ff1e:M:3e,ff1f:M:3f,ff20:M:40,ff21:M:61,ff22:M:62,ff23:M:63,ff24:M:64,
  ff25:M:65,ff26:M:66,ff27:M:67,ff28:M:68,ff29:M:69,ff2a:M:6a,ff2b:M:6b,ff2c:M:6c,ff2d:M:6d,
  ff2e:M:6e,ff2f:M:6f,ff30:M:70,ff31:M:71,ff32:M:72,ff33:M:73,ff34:M:74,ff35:M:75,ff36:M:76,
  ff37:M:77,ff38:M:78,ff39:M:79,ff3a:M:7a,ff3b:M:5b,ff3c:M:5c,ff3d:M:5d,ff3e:M:5e,ff3f:M:5f,
  ff40:M:60,ff41:M:61,ff42:M:62,ff43:M:63,ff44:M:64,ff45:M:65,ff46:M:66,ff47:M:67,ff48:M:68,
  ff49:M:69,ff4a:M:6a,ff4b:M:6b,ff4c:M:6c,ff4d:M:6d,ff4e:M:6e,ff4f:M:6f,ff50:M:70,ff51:M:71,
  ff52:M:72,ff53:M:73,ff54:M:74,ff55:M:75,ff56:M:76,ff57:M:77,ff58:M:78,ff59:M:79,ff5a:M:7a,
  ff5b:M:7b,ff5c:M:7c,ff5d:M:7d,ff5e:M:7e,ff5f:M:2985,ff60:M:2986,ff61:M:2e,ff62:M:300c,
  ff63:M:300d,ff64:M:3001,ff65:M:30fb,ff66:M:30f2,ff67:M:30a1,ff68:M:30a3,ff69:M:30a5,ff6a:M:30a7,
  ff6b:M:30a9,ff6c:M:30e3,ff6d:M:30e5,ff6e:M:30e7,ff6f:M:30c3,ff70:M:30fc,ff71:M:30a2,ff72:M:30a4,
  ff73:M:30a6,ff74:M:30a8,ff75:M:30aa,ff76:M:30ab,ff77:M:30ad,ff78:M:30af,ff79:M:30b1,ff7a:M:30b3,
  ff7b:M:30b5,ff7c:M:30b7,ff7d:M:30b9,ff7e:M:30bb,ff7f:M:30bd,ff80:M:30bf,ff81:M:30c1,ff82:M:30c4,
  ff83:M:30c6,ff84:M:30c8,ff85:M:30ca,ff86:M:30cb,ff87:M:30cc,ff88:M:30cd,ff89:M:30ce,ff8a:M:30cf,
  ff8b:M:30d2,ff8c:M:30d5,ff8d:M:30d8,ff8e:M:30db,ff8f:M:30de,ff90:M:30df,ff91:M:30e0,ff92:M:30e1,
  ff93:M:30e2,ff94:M:30e4,ff95:M:30e6,ff96:M:30e8,ff97:M:30e9,ff98:M:30ea,ff99:M:30eb,ff9a:M:30ec,
  ff9b:M:30ed,ff9c:M:30ef,ff9d:M:30f3,ff9e:M:3099,ff9f:M:309a,ffa0:I,ffa1:M:1100,ffa2:M:1101,
  ffa3:M:11aa,ffa4:M:1102,ffa5:M:11ac,ffa6:M:11ad,ffa7:M:1103,ffa8:M:1104,ffa9:M:1105,ffaa:M:11b0,
  ffab:M:11b1,ffac:M:11b2,ffad:M:11b3,ffae:M:11b4,ffaf:M:11b5,ffb0:M:111a,ffb1:M:1106,ffb2:M:1107,
  ffb3:M:1108,ffb4:M:1121,ffb5:M:1109,ffb6:M:110a,ffb7:M:110b,ffb8:M:110c,ffb9:M:110d,ffba:M:110e,
  ffbb:M:110f,ffbc:M:1110,ffbd:M:1111,ffbe:M:1112,ffbf:X,ffc2:M:1161,ffc3:M:1162,ffc4:M:1163,
  ffc5:M:1164,ffc6:M:1165,ffc7:M:1166,ffc8:X,ffca:M:1167,ffcb:M:1168,ffcc:M:1169,ffcd:M:116a,
  ffce:M:116b,ffcf:M:116c,ffd0:X,ffd2:M:116d,ffd3:M:116e,ffd4:M:116f,ffd5:M:1170,ffd6:M:1171,
  ffd7:M:1172,ffd8:X,ffda:M:1173,ffdb:M:1174,ffdc:M:1175,ffdd:X,ffe0:M:a2,ffe1:M:a3,ffe2:M:ac,
  ffe3:M:20.304,ffe4:M:a6,ffe5:M:a5,ffe6:M:20a9,ffe7:X,ffe8:M:2502,ffe9:M:2190,ffea:M:2191,
  ffeb:M:2192,ffec:M:2193,ffed:M:25a0,ffee:M:25cb,ffef:X,10000:V,1000c:X,1000d:V,10027:X,10028:V,
  1003b:X,1003c:V,1003e:X,1003f:V,1004e:X,10050:V,1005e:X,10080:V,100fb:X,10100:V,10103:X,10107:V,
  10134:X,10137:V,1018f:X,10190:V,1019d:X,101a0:V,101a1:X,101d0:V,101fe:X,10280:V,1029d:X,102a0:V,
  102d1:X,102e0:V,102fc:X,10300:V,10324:X,1032d:V,1034b:X,10350:V,1037b:X,10380:V,1039e:X,1039f:V,
  103c4:X,103c8:V,103d6:X,10400:M:10428,10401:M:10429,10402:M:1042a,10403:M:1042b,10404:M:1042c,
  10405:M:1042d,10406:M:1042e,10407:M:1042f,10408:M:10430,10409:M:10431,1040a:M:10432,
  1040b:M:10433,1040c:M:10434,1040d:M:10435,1040e:M:10436,1040f:M:10437,10410:M:10438,
  10411:M:10439,10412:M:1043a,10413:M:1043b,10414:M:1043c,10415:M:1043d,10416:M:1043e,
  10417:M:1043f,10418:M:10440,10419:M:10441,1041a:M:10442,1041b:M:10443,1041c:M:10444,
  1041d:M:10445,1041e:M:10446,1041f:M:10447,10420:M:10448,10421:M:10449,10422:M:1044a,
  10423:M:1044b,10424:M:1044c,10425:M:1044d,10426:M:1044e,10427:M:1044f,10428:V,1049e:X,104a0:V,
  104aa:X,104b0:M:104d8,104b1:M:104d9,104b2:M:104da,104b3:M:104db,104b4:M:104dc,104b5:M:104dd,
  104b6:M:104de,104b7:M:104df,104b8:M:104e0,104b9:M:104e1,104ba:M:104e2,104bb:M:104e3,
  104bc:M:104e4,104bd:M:104e5,104be:M:104e6,104bf:M:104e7,104c0:M:104e8,104c1:M:104e9,
  104c2:M:104ea,104c3:M:104eb,104c4:M:104ec,104c5:M:104ed,104c6:M:104ee,104c7:M:104ef,
  104c8:M:104f0,104c9:M:104f1,104ca:M:104f2,104cb:M:104f3,104cc:M:104f4,104cd:M:104f5,
  104ce:M:104f6,104cf:M:104f7,104d0:M:104f8,104d1:M:104f9,104d2:M:104fa,104d3:M:104fb,104d4:X,
  104d8:V,104fc:X,10500:V,10528:X,10530:V,10564:X,1056f:V,10570:M:10597,10571:M:10598,
  10572:M:10599,10573:M:1059a,10574:M:1059b,10575:M:1059c,10576:M:1059d,10577:M:1059e,
  10578:M:1059f,10579:M:105a0,1057a:M:105a1,1057b:X,1057c:M:105a3,1057d:M:105a4,1057e:M:105a5,
  1057f:M:105a6,10580:M:105a7,10581:M:105a8,10582:M:105a9,10583:M:105aa,10584:M:105ab,
  10585:M:105ac,10586:M:105ad,10587:M:105ae,10588:M:105af,10589:M:105b0,1058a:M:105b1,1058b:X,
  1058c:M:105b3,1058d:M:105b4,1058e:M:105b5,1058f:M:105b6,10590:M:105b7,10591:M:105b8,
  10592:M:105b9,10593:X,10594:M:105bb,10595:M:105bc,10596:X,10597:V,105a2:X,105a3:V,105b2:X,
  105b3:V,105ba:X,105bb:V,105bd:X,105c0:V,105f4:X,10600:V,10737:X,10740:V,10756:X,10760:V,10768:X,
  10780:V,10781:M:2d0,10782:M:2d1,10783:M:e6,10784:M:299,10785:M:253,10786:X,10787:M:2a3,
  10788:M:ab66,10789:M:2a5,1078a:M:2a4,1078b:M:256,1078c:M:257,1078d:M:1d91,1078e:M:258,
  1078f:M:25e,10790:M:2a9,10791:M:264,10792:M:262,10793:M:260,10794:M:29b,10795:M:127,10796:M:29c,
  10797:M:267,10798:M:284,10799:M:2aa,1079a:M:2ab,1079b:M:26c,1079c:M:1df04,1079d:M:a78e,
  1079e:M:26e,1079f:M:1df05,107a0:M:28e,107a1:M:1df06,107a2:M:f8,107a3:M:276,107a4:M:277,
  107a5:M:71,107a6:M:27a,107a7:M:1df08,107a8:M:27d,107a9:M:27e,107aa:M:280,107ab:M:2a8,
  107ac:M:2a6,107ad:M:ab67,107ae:M:2a7,107af:M:288,107b0:M:2c71,107b1:X,107b2:M:28f,107b3:M:2a1,
  107b4:M:2a2,107b5:M:298,107b6:M:1c0,107b7:M:1c1,107b8:M:1c2,107b9:M:1df0a,107ba:M:1df1e,107bb:X,
  10800:V,10806:X,10808:V,10809:X,1080a:V,10836:X,10837:V,10839:X,1083c:V,1083d:X,1083f:V,10856:X,
  10857:V,1089f:X,108a7:V,108b0:X,108e0:V,108f3:X,108f4:V,108f6:X,108fb:V,1091c:X,1091f:V,1093a:X,
  1093f:V,1095a:X,10980:V,109b8:X,109bc:V,109d0:X,109d2:V,10a04:X,10a05:V,10a07:X,10a0c:V,10a14:X,
  10a15:V,10a18:X,10a19:V,10a36:X,10a38:V,10a3b:X,10a3f:V,10a49:X,10a50:V,10a59:X,10a60:V,10aa0:X,
  10ac0:V,10ae7:X,10aeb:V,10af7:X,10b00:V,10b36:X,10b39:V,10b56:X,10b58:V,10b73:X,10b78:V,10b92:X,
  10b99:V,10b9d:X,10ba9:V,10bb0:X,10c00:V,10c49:X,10c80:M:10cc0,10c81:M:10cc1,10c82:M:10cc2,
  10c83:M:10cc3,10c84:M:10cc4,10c85:M:10cc5,10c86:M:10cc6,10c87:M:10cc7,10c88:M:10cc8,
  10c89:M:10cc9,10c8a:M:10cca,10c8b:M:10ccb,10c8c:M:10ccc,10c8d:M:10ccd,10c8e:M:10cce,
  10c8f:M:10ccf,10c90:M:10cd0,10c91:M:10cd1,10c92:M:10cd2,10c93:M:10cd3,10c94:M:10cd4,
  10c95:M:10cd5,10c96:M:10cd6,10c97:M:10cd7,10c98:M:10cd8,10c99:M:10cd9,10c9a:M:10cda,
  10c9b:M:10cdb,10c9c:M:10cdc,10c9d:M:10cdd,10c9e:M:10cde,10c9f:M:10cdf,10ca0:M:10ce0,
  10ca1:M:10ce1,10ca2:M:10ce2,10ca3:M:10ce3,10ca4:M:10ce4,10ca5:M:10ce5,10ca6:M:10ce6,
  10ca7:M:10ce7,10ca8:M:10ce8,10ca9:M:10ce9,10caa:M:10cea,10cab:M:10ceb,10cac:M:10cec,
  10cad:M:10ced,10cae:M:10cee,10caf:M:10cef,10cb0:M:10cf0,10cb1:M:10cf1,10cb2:M:10cf2,10cb3:X,
  10cc0:V,10cf3:X,10cfa:V,10d28:X,10d30:V,10d3a:X,10d40:V,10d50:M:10d70,10d51:M:10d71,
  10d52:M:10d72,10d53:M:10d73,10d54:M:10d74,10d55:M:10d75,10d56:M:10d76,10d57:M:10d77,
  10d58:M:10d78,10d59:M:10d79,10d5a:M:10d7a,10d5b:M:10d7b,10d5c:M:10d7c,10d5d:M:10d7d,
  10d5e:M:10d7e,10d5f:M:10d7f,10d60:M:10d80,10d61:M:10d81,10d62:M:10d82,10d63:M:10d83,
  10d64:M:10d84,10d65:M:10d85,10d66:X,10d69:V,10d86:X,10d8e:V,10d90:X,10e60:V,10e7f:X,10e80:V,
  10eaa:X,10eab:V,10eae:X,10eb0:V,10eb2:X,10ec2:V,10ec8:X,10ed0:V,10ed9:X,10efa:V,10f28:X,10f30:V,
  10f5a:X,10f70:V,10f8a:X,10fb0:V,10fcc:X,10fe0:V,10ff7:X,11000:V,1104e:X,11052:V,11076:X,1107f:V,
  110bd:X,110be:V,110c3:X,110d0:V,110e9:X,110f0:V,110fa:X,11100:V,11135:X,11136:V,11148:X,11150:V,
  11177:X,11180:V,111e0:X,111e1:V,111f5:X,11200:V,11212:X,11213:V,11242:X,11280:V,11287:X,11288:V,
  11289:X,1128a:V,1128e:X,1128f:V,1129e:X,1129f:V,112aa:X,112b0:V,112eb:X,112f0:V,112fa:X,11300:V,
  11304:X,11305:V,1130d:X,1130f:V,11311:X,11313:V,11329:X,1132a:V,11331:X,11332:V,11334:X,11335:V,
  1133a:X,1133b:V,11345:X,11347:V,11349:X,1134b:V,1134e:X,11350:V,11351:X,11357:V,11358:X,1135d:V,
  11364:X,11366:V,1136d:X,11370:V,11375:X,11380:V,1138a:X,1138b:V,1138c:X,1138e:V,1138f:X,11390:V,
  113b6:X,113b7:V,113c1:X,113c2:V,113c3:X,113c5:V,113c6:X,113c7:V,113cb:X,113cc:V,113d6:X,113d7:V,
  113d9:X,113e1:V,113e3:X,11400:V,1145c:X,1145d:V,11462:X,11480:V,114c8:X,114d0:V,114da:X,11580:V,
  115b6:X,115b8:V,115de:X,11600:V,11645:X,11650:V,1165a:X,11660:V,1166d:X,11680:V,116ba:X,116c0:V,
  116ca:X,116d0:V,116e4:X,11700:V,1171b:X,1171d:V,1172c:X,11730:V,11747:X,11800:V,1183c:X,
  118a0:M:118c0,118a1:M:118c1,118a2:M:118c2,118a3:M:118c3,118a4:M:118c4,118a5:M:118c5,
  118a6:M:118c6,118a7:M:118c7,118a8:M:118c8,118a9:M:118c9,118aa:M:118ca,118ab:M:118cb,
  118ac:M:118cc,118ad:M:118cd,118ae:M:118ce,118af:M:118cf,118b0:M:118d0,118b1:M:118d1,
  118b2:M:118d2,118b3:M:118d3,118b4:M:118d4,118b5:M:118d5,118b6:M:118d6,118b7:M:118d7,
  118b8:M:118d8,118b9:M:118d9,118ba:M:118da,118bb:M:118db,118bc:M:118dc,118bd:M:118dd,
  118be:M:118de,118bf:M:118df,118c0:V,118f3:X,118ff:V,11907:X,11909:V,1190a:X,1190c:V,11914:X,
  11915:V,11917:X,11918:V,11936:X,11937:V,11939:X,1193b:V,11947:X,11950:V,1195a:X,119a0:V,119a8:X,
  119aa:V,119d8:X,119da:V,119e5:X,11a00:V,11a48:X,11a50:V,11aa3:X,11ab0:V,11af9:X,11b00:V,11b0a:X,
  11b60:V,11b68:X,11bc0:V,11be2:X,11bf0:V,11bfa:X,11c00:V,11c09:X,11c0a:V,11c37:X,11c38:V,11c46:X,
  11c50:V,11c6d:X,11c70:V,11c90:X,11c92:V,11ca8:X,11ca9:V,11cb7:X,11d00:V,11d07:X,11d08:V,11d0a:X,
  11d0b:V,11d37:X,11d3a:V,11d3b:X,11d3c:V,11d3e:X,11d3f:V,11d48:X,11d50:V,11d5a:X,11d60:V,11d66:X,
  11d67:V,11d69:X,11d6a:V,11d8f:X,11d90:V,11d92:X,11d93:V,11d99:X,11da0:V,11daa:X,11db0:V,11ddc:X,
  11de0:V,11dea:X,11ee0:V,11ef9:X,11f00:V,11f11:X,11f12:V,11f3b:X,11f3e:V,11f5b:X,11fb0:V,11fb1:X,
  11fc0:V,11ff2:X,11fff:V,1239a:X,12400:V,1246f:X,12470:V,12475:X,12480:V,12544:X,12f90:V,12ff3:X,
  13000:V,13430:X,13440:V,13456:X,13460:V,143fb:X,14400:V,14647:X,16100:V,1613a:X,16800:V,16a39:X,
  16a40:V,16a5f:X,16a60:V,16a6a:X,16a6e:V,16abf:X,16ac0:V,16aca:X,16ad0:V,16aee:X,16af0:V,16af6:X,
  16b00:V,16b46:X,16b50:V,16b5a:X,16b5b:V,16b62:X,16b63:V,16b78:X,16b7d:V,16b90:X,16d40:V,16d7a:X,
  16e40:M:16e60,16e41:M:16e61,16e42:M:16e62,16e43:M:16e63,16e44:M:16e64,16e45:M:16e65,
  16e46:M:16e66,16e47:M:16e67,16e48:M:16e68,16e49:M:16e69,16e4a:M:16e6a,16e4b:M:16e6b,
  16e4c:M:16e6c,16e4d:M:16e6d,16e4e:M:16e6e,16e4f:M:16e6f,16e50:M:16e70,16e51:M:16e71,
  16e52:M:16e72,16e53:M:16e73,16e54:M:16e74,16e55:M:16e75,16e56:M:16e76,16e57:M:16e77,
  16e58:M:16e78,16e59:M:16e79,16e5a:M:16e7a,16e5b:M:16e7b,16e5c:M:16e7c,16e5d:M:16e7d,
  16e5e:M:16e7e,16e5f:M:16e7f,16e60:V,16e9b:X,16ea0:M:16ebb,16ea1:M:16ebc,16ea2:M:16ebd,
  16ea3:M:16ebe,16ea4:M:16ebf,16ea5:M:16ec0,16ea6:M:16ec1,16ea7:M:16ec2,16ea8:M:16ec3,
  16ea9:M:16ec4,16eaa:M:16ec5,16eab:M:16ec6,16eac:M:16ec7,16ead:M:16ec8,16eae:M:16ec9,
  16eaf:M:16eca,16eb0:M:16ecb,16eb1:M:16ecc,16eb2:M:16ecd,16eb3:M:16ece,16eb4:M:16ecf,
  16eb5:M:16ed0,16eb6:M:16ed1,16eb7:M:16ed2,16eb8:M:16ed3,16eb9:X,16ebb:V,16ed4:X,16f00:V,16f4b:X,
  16f4f:V,16f88:X,16f8f:V,16fa0:X,16fe0:V,16fe5:X,16ff0:V,16ff7:X,17000:V,18cd6:X,18cff:V,18d1f:X,
  18d80:V,18df3:X,1aff0:V,1aff4:X,1aff5:V,1affc:X,1affd:V,1afff:X,1b000:V,1b123:X,1b132:V,1b133:X,
  1b150:V,1b153:X,1b155:V,1b156:X,1b164:V,1b168:X,1b170:V,1b2fc:X,1bc00:V,1bc6b:X,1bc70:V,1bc7d:X,
  1bc80:V,1bc89:X,1bc90:V,1bc9a:X,1bc9c:V,1bca0:I,1bca4:X,1cc00:V,1ccd6:M:61,1ccd7:M:62,
  1ccd8:M:63,1ccd9:M:64,1ccda:M:65,1ccdb:M:66,1ccdc:M:67,1ccdd:M:68,1ccde:M:69,1ccdf:M:6a,
  1cce0:M:6b,1cce1:M:6c,1cce2:M:6d,1cce3:M:6e,1cce4:M:6f,1cce5:M:70,1cce6:M:71,1cce7:M:72,
  1cce8:M:73,1cce9:M:74,1ccea:M:75,1cceb:M:76,1ccec:M:77,1cced:M:78,1ccee:M:79,1ccef:M:7a,
  1ccf0:M:30,1ccf1:M:31,1ccf2:M:32,1ccf3:M:33,1ccf4:M:34,1ccf5:M:35,1ccf6:M:36,1ccf7:M:37,
  1ccf8:M:38,1ccf9:M:39,1ccfa:V,1ccfd:X,1cd00:V,1ceb4:X,1ceba:V,1ced1:X,1cee0:V,1cef1:X,1cf00:V,
  1cf2e:X,1cf30:V,1cf47:X,1cf50:V,1cfc4:X,1d000:V,1d0f6:X,1d100:V,1d127:X,1d129:V,
  1d15e:M:1d157.1d165,1d15f:M:1d158.1d165,1d160:M:1d158.1d165.1d16e,1d161:M:1d158.1d165.1d16f,
  1d162:M:1d158.1d165.1d170,1d163:M:1d158.1d165.1d171,1d164:M:1d158.1d165.1d172,1d165:V,1d173:I,
  1d17b:V,1d1bb:M:1d1b9.1d165,1d1bc:M:1d1ba.1d165,1d1bd:M:1d1b9.1d165.1d16e,
  1d1be:M:1d1ba.1d165.1d16e,1d1bf:M:1d1b9.1d165.1d16f,1d1c0:M:1d1ba.1d165.1d16f,1d1c1:V,1d1eb:X,
  1d200:V,1d246:X,1d2c0:V,1d2d4:X,1d2e0:V,1d2f4:X,1d300:V,1d357:X,1d360:V,1d379:X,1d400:M:61,
  1d401:M:62,1d402:M:63,1d403:M:64,1d404:M:65,1d405:M:66,1d406:M:67,1d407:M:68,1d408:M:69,
  1d409:M:6a,1d40a:M:6b,1d40b:M:6c,1d40c:M:6d,1d40d:M:6e,1d40e:M:6f,1d40f:M:70,1d410:M:71,
  1d411:M:72,1d412:M:73,1d413:M:74,1d414:M:75,1d415:M:76,1d416:M:77,1d417:M:78,1d418:M:79,
  1d419:M:7a,1d41a:M:61,1d41b:M:62,1d41c:M:63,1d41d:M:64,1d41e:M:65,1d41f:M:66,1d420:M:67,
  1d421:M:68,1d422:M:69,1d423:M:6a,1d424:M:6b,1d425:M:6c,1d426:M:6d,1d427:M:6e,1d428:M:6f,
  1d429:M:70,1d42a:M:71,1d42b:M:72,1d42c:M:73,1d42d:M:74,1d42e:M:75,1d42f:M:76,1d430:M:77,
  1d431:M:78,1d432:M:79,1d433:M:7a,1d434:M:61,1d435:M:62,1d436:M:63,1d437:M:64,1d438:M:65,
  1d439:M:66,1d43a:M:67,1d43b:M:68,1d43c:M:69,1d43d:M:6a,1d43e:M:6b,1d43f:M:6c,1d440:M:6d,
  1d441:M:6e,1d442:M:6f,1d443:M:70,1d444:M:71,1d445:M:72,1d446:M:73,1d447:M:74,1d448:M:75,
  1d449:M:76,1d44a:M:77,1d44b:M:78,1d44c:M:79,1d44d:M:7a,1d44e:M:61,1d44f:M:62,1d450:M:63,
  1d451:M:64,1d452:M:65,1d453:M:66,1d454:M:67,1d455:X,1d456:M:69,1d457:M:6a,1d458:M:6b,1d459:M:6c,
  1d45a:M:6d,1d45b:M:6e,1d45c:M:6f,1d45d:M:70,1d45e:M:71,1d45f:M:72,1d460:M:73,1d461:M:74,
  1d462:M:75,1d463:M:76,1d464:M:77,1d465:M:78,1d466:M:79,1d467:M:7a,1d468:M:61,1d469:M:62,
  1d46a:M:63,1d46b:M:64,1d46c:M:65,1d46d:M:66,1d46e:M:67,1d46f:M:68,1d470:M:69,1d471:M:6a,
  1d472:M:6b,1d473:M:6c,1d474:M:6d,1d475:M:6e,1d476:M:6f,1d477:M:70,1d478:M:71,1d479:M:72,
  1d47a:M:73,1d47b:M:74,1d47c:M:75,1d47d:M:76,1d47e:M:77,1d47f:M:78,1d480:M:79,1d481:M:7a,
  1d482:M:61,1d483:M:62,1d484:M:63,1d485:M:64,1d486:M:65,1d487:M:66,1d488:M:67,1d489:M:68,
  1d48a:M:69,1d48b:M:6a,1d48c:M:6b,1d48d:M:6c,1d48e:M:6d,1d48f:M:6e,1d490:M:6f,1d491:M:70,
  1d492:M:71,1d493:M:72,1d494:M:73,1d495:M:74,1d496:M:75,1d497:M:76,1d498:M:77,1d499:M:78,
  1d49a:M:79,1d49b:M:7a,1d49c:M:61,1d49d:X,1d49e:M:63,1d49f:M:64,1d4a0:X,1d4a2:M:67,1d4a3:X,
  1d4a5:M:6a,1d4a6:M:6b,1d4a7:X,1d4a9:M:6e,1d4aa:M:6f,1d4ab:M:70,1d4ac:M:71,1d4ad:X,1d4ae:M:73,
  1d4af:M:74,1d4b0:M:75,1d4b1:M:76,1d4b2:M:77,1d4b3:M:78,1d4b4:M:79,1d4b5:M:7a,1d4b6:M:61,
  1d4b7:M:62,1d4b8:M:63,1d4b9:M:64,1d4ba:X,1d4bb:M:66,1d4bc:X,1d4bd:M:68,1d4be:M:69,1d4bf:M:6a,
  1d4c0:M:6b,1d4c1:M:6c,1d4c2:M:6d,1d4c3:M:6e,1d4c4:X,1d4c5:M:70,1d4c6:M:71,1d4c7:M:72,1d4c8:M:73,
  1d4c9:M:74,1d4ca:M:75,1d4cb:M:76,1d4cc:M:77,1d4cd:M:78,1d4ce:M:79,1d4cf:M:7a,1d4d0:M:61,
  1d4d1:M:62,1d4d2:M:63,1d4d3:M:64,1d4d4:M:65,1d4d5:M:66,1d4d6:M:67,1d4d7:M:68,1d4d8:M:69,
  1d4d9:M:6a,1d4da:M:6b,1d4db:M:6c,1d4dc:M:6d,1d4dd:M:6e,1d4de:M:6f,1d4df:M:70,1d4e0:M:71,
  1d4e1:M:72,1d4e2:M:73,1d4e3:M:74,1d4e4:M:75,1d4e5:M:76,1d4e6:M:77,1d4e7:M:78,1d4e8:M:79,
  1d4e9:M:7a,1d4ea:M:61,1d4eb:M:62,1d4ec:M:63,1d4ed:M:64,1d4ee:M:65,1d4ef:M:66,1d4f0:M:67,
  1d4f1:M:68,1d4f2:M:69,1d4f3:M:6a,1d4f4:M:6b,1d4f5:M:6c,1d4f6:M:6d,1d4f7:M:6e,1d4f8:M:6f,
  1d4f9:M:70,1d4fa:M:71,1d4fb:M:72,1d4fc:M:73,1d4fd:M:74,1d4fe:M:75,1d4ff:M:76,1d500:M:77,
  1d501:M:78,1d502:M:79,1d503:M:7a,1d504:M:61,1d505:M:62,1d506:X,1d507:M:64,1d508:M:65,1d509:M:66,
  1d50a:M:67,1d50b:X,1d50d:M:6a,1d50e:M:6b,1d50f:M:6c,1d510:M:6d,1d511:M:6e,1d512:M:6f,1d513:M:70,
  1d514:M:71,1d515:X,1d516:M:73,1d517:M:74,1d518:M:75,1d519:M:76,1d51a:M:77,1d51b:M:78,1d51c:M:79,
  1d51d:X,1d51e:M:61,1d51f:M:62,1d520:M:63,1d521:M:64,1d522:M:65,1d523:M:66,1d524:M:67,1d525:M:68,
  1d526:M:69,1d527:M:6a,1d528:M:6b,1d529:M:6c,1d52a:M:6d,1d52b:M:6e,1d52c:M:6f,1d52d:M:70,
  1d52e:M:71,1d52f:M:72,1d530:M:73,1d531:M:74,1d532:M:75,1d533:M:76,1d534:M:77,1d535:M:78,
  1d536:M:79,1d537:M:7a,1d538:M:61,1d539:M:62,1d53a:X,1d53b:M:64,1d53c:M:65,1d53d:M:66,1d53e:M:67,
  1d53f:X,1d540:M:69,1d541:M:6a,1d542:M:6b,1d543:M:6c,1d544:M:6d,1d545:X,1d546:M:6f,1d547:X,
  1d54a:M:73,1d54b:M:74,1d54c:M:75,1d54d:M:76,1d54e:M:77,1d54f:M:78,1d550:M:79,1d551:X,1d552:M:61,
  1d553:M:62,1d554:M:63,1d555:M:64,1d556:M:65,1d557:M:66,1d558:M:67,1d559:M:68,1d55a:M:69,
  1d55b:M:6a,1d55c:M:6b,1d55d:M:6c,1d55e:M:6d,1d55f:M:6e,1d560:M:6f,1d561:M:70,1d562:M:71,
  1d563:M:72,1d564:M:73,1d565:M:74,1d566:M:75,1d567:M:76,1d568:M:77,1d569:M:78,1d56a:M:79,
  1d56b:M:7a,1d56c:M:61,1d56d:M:62,1d56e:M:63,1d56f:M:64,1d570:M:65,1d571:M:66,1d572:M:67,
  1d573:M:68,1d574:M:69,1d575:M:6a,1d576:M:6b,1d577:M:6c,1d578:M:6d,1d579:M:6e,1d57a:M:6f,
  1d57b:M:70,1d57c:M:71,1d57d:M:72,1d57e:M:73,1d57f:M:74,1d580:M:75,1d581:M:76,1d582:M:77,
  1d583:M:78,1d584:M:79,1d585:M:7a,1d586:M:61,1d587:M:62,1d588:M:63,1d589:M:64,1d58a:M:65,
  1d58b:M:66,1d58c:M:67,1d58d:M:68,1d58e:M:69,1d58f:M:6a,1d590:M:6b,1d591:M:6c,1d592:M:6d,
  1d593:M:6e,1d594:M:6f,1d595:M:70,1d596:M:71,1d597:M:72,1d598:M:73,1d599:M:74,1d59a:M:75,
  1d59b:M:76,1d59c:M:77,1d59d:M:78,1d59e:M:79,1d59f:M:7a,1d5a0:M:61,1d5a1:M:62,1d5a2:M:63,
  1d5a3:M:64,1d5a4:M:65,1d5a5:M:66,1d5a6:M:67,1d5a7:M:68,1d5a8:M:69,1d5a9:M:6a,1d5aa:M:6b,
  1d5ab:M:6c,1d5ac:M:6d,1d5ad:M:6e,1d5ae:M:6f,1d5af:M:70,1d5b0:M:71,1d5b1:M:72,1d5b2:M:73,
  1d5b3:M:74,1d5b4:M:75,1d5b5:M:76,1d5b6:M:77,1d5b7:M:78,1d5b8:M:79,1d5b9:M:7a,1d5ba:M:61,
  1d5bb:M:62,1d5bc:M:63,1d5bd:M:64,1d5be:M:65,1d5bf:M:66,1d5c0:M:67,1d5c1:M:68,1d5c2:M:69,
  1d5c3:M:6a,1d5c4:M:6b,1d5c5:M:6c,1d5c6:M:6d,1d5c7:M:6e,1d5c8:M:6f,1d5c9:M:70,1d5ca:M:71,
  1d5cb:M:72,1d5cc:M:73,1d5cd:M:74,1d5ce:M:75,1d5cf:M:76,1d5d0:M:77,1d5d1:M:78,1d5d2:M:79,
  1d5d3:M:7a,1d5d4:M:61,1d5d5:M:62,1d5d6:M:63,1d5d7:M:64,1d5d8:M:65,1d5d9:M:66,1d5da:M:67,
  1d5db:M:68,1d5dc:M:69,1d5dd:M:6a,1d5de:M:6b,1d5df:M:6c,1d5e0:M:6d,1d5e1:M:6e,1d5e2:M:6f,
  1d5e3:M:70,1d5e4:M:71,1d5e5:M:72,1d5e6:M:73,1d5e7:M:74,1d5e8:M:75,1d5e9:M:76,1d5ea:M:77,
  1d5eb:M:78,1d5ec:M:79,1d5ed:M:7a,1d5ee:M:61,1d5ef:M:62,1d5f0:M:63,1d5f1:M:64,1d5f2:M:65,
  1d5f3:M:66,1d5f4:M:67,1d5f5:M:68,1d5f6:M:69,1d5f7:M:6a,1d5f8:M:6b,1d5f9:M:6c,1d5fa:M:6d,
  1d5fb:M:6e,1d5fc:M:6f,1d5fd:M:70,1d5fe:M:71,1d5ff:M:72,1d600:M:73,1d601:M:74,1d602:M:75,
  1d603:M:76,1d604:M:77,1d605:M:78,1d606:M:79,1d607:M:7a,1d608:M:61,1d609:M:62,1d60a:M:63,
  1d60b:M:64,1d60c:M:65,1d60d:M:66,1d60e:M:67,1d60f:M:68,1d610:M:69,1d611:M:6a,1d612:M:6b,
  1d613:M:6c,1d614:M:6d,1d615:M:6e,1d616:M:6f,1d617:M:70,1d618:M:71,1d619:M:72,1d61a:M:73,
  1d61b:M:74,1d61c:M:75,1d61d:M:76,1d61e:M:77,1d61f:M:78,1d620:M:79,1d621:M:7a,1d622:M:61,
  1d623:M:62,1d624:M:63,1d625:M:64,1d626:M:65,1d627:M:66,1d628:M:67,1d629:M:68,1d62a:M:69,
  1d62b:M:6a,1d62c:M:6b,1d62d:M:6c,1d62e:M:6d,1d62f:M:6e,1d630:M:6f,1d631:M:70,1d632:M:71,
  1d633:M:72,1d634:M:73,1d635:M:74,1d636:M:75,1d637:M:76,1d638:M:77,1d639:M:78,1d63a:M:79,
  1d63b:M:7a,1d63c:M:61,1d63d:M:62,1d63e:M:63,1d63f:M:64,1d640:M:65,1d641:M:66,1d642:M:67,
  1d643:M:68,1d644:M:69,1d645:M:6a,1d646:M:6b,1d647:M:6c,1d648:M:6d,1d649:M:6e,1d64a:M:6f,
  1d64b:M:70,1d64c:M:71,1d64d:M:72,1d64e:M:73,1d64f:M:74,1d650:M:75,1d651:M:76,1d652:M:77,
  1d653:M:78,1d654:M:79,1d655:M:7a,1d656:M:61,1d657:M:62,1d658:M:63,1d659:M:64,1d65a:M:65,
  1d65b:M:66,1d65c:M:67,1d65d:M:68,1d65e:M:69,1d65f:M:6a,1d660:M:6b,1d661:M:6c,1d662:M:6d,
  1d663:M:6e,1d664:M:6f,1d665:M:70,1d666:M:71,1d667:M:72,1d668:M:73,1d669:M:74,1d66a:M:75,
  1d66b:M:76,1d66c:M:77,1d66d:M:78,1d66e:M:79,1d66f:M:7a,1d670:M:61,1d671:M:62,1d672:M:63,
  1d673:M:64,1d674:M:65,1d675:M:66,1d676:M:67,1d677:M:68,1d678:M:69,1d679:M:6a,1d67a:M:6b,
  1d67b:M:6c,1d67c:M:6d,1d67d:M:6e,1d67e:M:6f,1d67f:M:70,1d680:M:71,1d681:M:72,1d682:M:73,
  1d683:M:74,1d684:M:75,1d685:M:76,1d686:M:77,1d687:M:78,1d688:M:79,1d689:M:7a,1d68a:M:61,
  1d68b:M:62,1d68c:M:63,1d68d:M:64,1d68e:M:65,1d68f:M:66,1d690:M:67,1d691:M:68,1d692:M:69,
  1d693:M:6a,1d694:M:6b,1d695:M:6c,1d696:M:6d,1d697:M:6e,1d698:M:6f,1d699:M:70,1d69a:M:71,
  1d69b:M:72,1d69c:M:73,1d69d:M:74,1d69e:M:75,1d69f:M:76,1d6a0:M:77,1d6a1:M:78,1d6a2:M:79,
  1d6a3:M:7a,1d6a4:M:131,1d6a5:M:237,1d6a6:X,1d6a8:M:3b1,1d6a9:M:3b2,1d6aa:M:3b3,1d6ab:M:3b4,
  1d6ac:M:3b5,1d6ad:M:3b6,1d6ae:M:3b7,1d6af:M:3b8,1d6b0:M:3b9,1d6b1:M:3ba,1d6b2:M:3bb,1d6b3:M:3bc,
  1d6b4:M:3bd,1d6b5:M:3be,1d6b6:M:3bf,1d6b7:M:3c0,1d6b8:M:3c1,1d6b9:M:3b8,1d6ba:M:3c3,1d6bb:M:3c4,
  1d6bc:M:3c5,1d6bd:M:3c6,1d6be:M:3c7,1d6bf:M:3c8,1d6c0:M:3c9,1d6c1:M:2207,1d6c2:M:3b1,
  1d6c3:M:3b2,1d6c4:M:3b3,1d6c5:M:3b4,1d6c6:M:3b5,1d6c7:M:3b6,1d6c8:M:3b7,1d6c9:M:3b8,1d6ca:M:3b9,
  1d6cb:M:3ba,1d6cc:M:3bb,1d6cd:M:3bc,1d6ce:M:3bd,1d6cf:M:3be,1d6d0:M:3bf,1d6d1:M:3c0,1d6d2:M:3c1,
  1d6d3:M:3c3,1d6d5:M:3c4,1d6d6:M:3c5,1d6d7:M:3c6,1d6d8:M:3c7,1d6d9:M:3c8,1d6da:M:3c9,
  1d6db:M:2202,1d6dc:M:3b5,1d6dd:M:3b8,1d6de:M:3ba,1d6df:M:3c6,1d6e0:M:3c1,1d6e1:M:3c0,
  1d6e2:M:3b1,1d6e3:M:3b2,1d6e4:M:3b3,1d6e5:M:3b4,1d6e6:M:3b5,1d6e7:M:3b6,1d6e8:M:3b7,1d6e9:M:3b8,
  1d6ea:M:3b9,1d6eb:M:3ba,1d6ec:M:3bb,1d6ed:M:3bc,1d6ee:M:3bd,1d6ef:M:3be,1d6f0:M:3bf,1d6f1:M:3c0,
  1d6f2:M:3c1,1d6f3:M:3b8,1d6f4:M:3c3,1d6f5:M:3c4,1d6f6:M:3c5,1d6f7:M:3c6,1d6f8:M:3c7,1d6f9:M:3c8,
  1d6fa:M:3c9,1d6fb:M:2207,1d6fc:M:3b1,1d6fd:M:3b2,1d6fe:M:3b3,1d6ff:M:3b4,1d700:M:3b5,
  1d701:M:3b6,1d702:M:3b7,1d703:M:3b8,1d704:M:3b9,1d705:M:3ba,1d706:M:3bb,1d707:M:3bc,1d708:M:3bd,
  1d709:M:3be,1d70a:M:3bf,1d70b:M:3c0,1d70c:M:3c1,1d70d:M:3c3,1d70f:M:3c4,1d710:M:3c5,1d711:M:3c6,
  1d712:M:3c7,1d713:M:3c8,1d714:M:3c9,1d715:M:2202,1d716:M:3b5,1d717:M:3b8,1d718:M:3ba,
  1d719:M:3c6,1d71a:M:3c1,1d71b:M:3c0,1d71c:M:3b1,1d71d:M:3b2,1d71e:M:3b3,1d71f:M:3b4,1d720:M:3b5,
  1d721:M:3b6,1d722:M:3b7,1d723:M:3b8,1d724:M:3b9,1d725:M:3ba,1d726:M:3bb,1d727:M:3bc,1d728:M:3bd,
  1d729:M:3be,1d72a:M:3bf,1d72b:M:3c0,1d72c:M:3c1,1d72d:M:3b8,1d72e:M:3c3,1d72f:M:3c4,1d730:M:3c5,
  1d731:M:3c6,1d732:M:3c7,1d733:M:3c8,1d734:M:3c9,1d735:M:2207,1d736:M:3b1,1d737:M:3b2,
  1d738:M:3b3,1d739:M:3b4,1d73a:M:3b5,1d73b:M:3b6,1d73c:M:3b7,1d73d:M:3b8,1d73e:M:3b9,1d73f:M:3ba,
  1d740:M:3bb,1d741:M:3bc,1d742:M:3bd,1d743:M:3be,1d744:M:3bf,1d745:M:3c0,1d746:M:3c1,1d747:M:3c3,
  1d749:M:3c4,1d74a:M:3c5,1d74b:M:3c6,1d74c:M:3c7,1d74d:M:3c8,1d74e:M:3c9,1d74f:M:2202,
  1d750:M:3b5,1d751:M:3b8,1d752:M:3ba,1d753:M:3c6,1d754:M:3c1,1d755:M:3c0,1d756:M:3b1,1d757:M:3b2,
  1d758:M:3b3,1d759:M:3b4,1d75a:M:3b5,1d75b:M:3b6,1d75c:M:3b7,1d75d:M:3b8,1d75e:M:3b9,1d75f:M:3ba,
  1d760:M:3bb,1d761:M:3bc,1d762:M:3bd,1d763:M:3be,1d764:M:3bf,1d765:M:3c0,1d766:M:3c1,1d767:M:3b8,
  1d768:M:3c3,1d769:M:3c4,1d76a:M:3c5,1d76b:M:3c6,1d76c:M:3c7,1d76d:M:3c8,1d76e:M:3c9,
  1d76f:M:2207,1d770:M:3b1,1d771:M:3b2,1d772:M:3b3,1d773:M:3b4,1d774:M:3b5,1d775:M:3b6,
  1d776:M:3b7,1d777:M:3b8,1d778:M:3b9,1d779:M:3ba,1d77a:M:3bb,1d77b:M:3bc,1d77c:M:3bd,1d77d:M:3be,
  1d77e:M:3bf,1d77f:M:3c0,1d780:M:3c1,1d781:M:3c3,1d783:M:3c4,1d784:M:3c5,1d785:M:3c6,1d786:M:3c7,
  1d787:M:3c8,1d788:M:3c9,1d789:M:2202,1d78a:M:3b5,1d78b:M:3b8,1d78c:M:3ba,1d78d:M:3c6,
  1d78e:M:3c1,1d78f:M:3c0,1d790:M:3b1,1d791:M:3b2,1d792:M:3b3,1d793:M:3b4,1d794:M:3b5,1d795:M:3b6,
  1d796:M:3b7,1d797:M:3b8,1d798:M:3b9,1d799:M:3ba,1d79a:M:3bb,1d79b:M:3bc,1d79c:M:3bd,1d79d:M:3be,
  1d79e:M:3bf,1d79f:M:3c0,1d7a0:M:3c1,1d7a1:M:3b8,1d7a2:M:3c3,1d7a3:M:3c4,1d7a4:M:3c5,1d7a5:M:3c6,
  1d7a6:M:3c7,1d7a7:M:3c8,1d7a8:M:3c9,1d7a9:M:2207,1d7aa:M:3b1,1d7ab:M:3b2,1d7ac:M:3b3,
  1d7ad:M:3b4,1d7ae:M:3b5,1d7af:M:3b6,1d7b0:M:3b7,1d7b1:M:3b8,1d7b2:M:3b9,1d7b3:M:3ba,1d7b4:M:3bb,
  1d7b5:M:3bc,1d7b6:M:3bd,1d7b7:M:3be,1d7b8:M:3bf,1d7b9:M:3c0,1d7ba:M:3c1,1d7bb:M:3c3,1d7bd:M:3c4,
  1d7be:M:3c5,1d7bf:M:3c6,1d7c0:M:3c7,1d7c1:M:3c8,1d7c2:M:3c9,1d7c3:M:2202,1d7c4:M:3b5,
  1d7c5:M:3b8,1d7c6:M:3ba,1d7c7:M:3c6,1d7c8:M:3c1,1d7c9:M:3c0,1d7ca:M:3dd,1d7cc:X,1d7ce:M:30,
  1d7cf:M:31,1d7d0:M:32,1d7d1:M:33,1d7d2:M:34,1d7d3:M:35,1d7d4:M:36,1d7d5:M:37,1d7d6:M:38,
  1d7d7:M:39,1d7d8:M:30,1d7d9:M:31,1d7da:M:32,1d7db:M:33,1d7dc:M:34,1d7dd:M:35,1d7de:M:36,
  1d7df:M:37,1d7e0:M:38,1d7e1:M:39,1d7e2:M:30,1d7e3:M:31,1d7e4:M:32,1d7e5:M:33,1d7e6:M:34,
  1d7e7:M:35,1d7e8:M:36,1d7e9:M:37,1d7ea:M:38,1d7eb:M:39,1d7ec:M:30,1d7ed:M:31,1d7ee:M:32,
  1d7ef:M:33,1d7f0:M:34,1d7f1:M:35,1d7f2:M:36,1d7f3:M:37,1d7f4:M:38,1d7f5:M:39,1d7f6:M:30,
  1d7f7:M:31,1d7f8:M:32,1d7f9:M:33,1d7fa:M:34,1d7fb:M:35,1d7fc:M:36,1d7fd:M:37,1d7fe:M:38,
  1d7ff:M:39,1d800:V,1da8c:X,1da9b:V,1daa0:X,1daa1:V,1dab0:X,1df00:V,1df1f:X,1df25:V,1df2b:X,
  1e000:V,1e007:X,1e008:V,1e019:X,1e01b:V,1e022:X,1e023:V,1e025:X,1e026:V,1e02b:X,1e030:M:430,
  1e031:M:431,1e032:M:432,1e033:M:433,1e034:M:434,1e035:M:435,1e036:M:436,1e037:M:437,1e038:M:438,
  1e039:M:43a,1e03a:M:43b,1e03b:M:43c,1e03c:M:43e,1e03d:M:43f,1e03e:M:440,1e03f:M:441,1e040:M:442,
  1e041:M:443,1e042:M:444,1e043:M:445,1e044:M:446,1e045:M:447,1e046:M:448,1e047:M:44b,1e048:M:44d,
  1e049:M:44e,1e04a:M:a689,1e04b:M:4d9,1e04c:M:456,1e04d:M:458,1e04e:M:4e9,1e04f:M:4af,
  1e050:M:4cf,1e051:M:430,1e052:M:431,1e053:M:432,1e054:M:433,1e055:M:434,1e056:M:435,1e057:M:436,
  1e058:M:437,1e059:M:438,1e05a:M:43a,1e05b:M:43b,1e05c:M:43e,1e05d:M:43f,1e05e:M:441,1e05f:M:443,
  1e060:M:444,1e061:M:445,1e062:M:446,1e063:M:447,1e064:M:448,1e065:M:44a,1e066:M:44b,1e067:M:491,
  1e068:M:456,1e069:M:455,1e06a:M:45f,1e06b:M:4ab,1e06c:M:a651,1e06d:M:4b1,1e06e:X,1e08f:V,
  1e090:X,1e100:V,1e12d:X,1e130:V,1e13e:X,1e140:V,1e14a:X,1e14e:V,1e150:X,1e290:V,1e2af:X,1e2c0:V,
  1e2fa:X,1e2ff:V,1e300:X,1e4d0:V,1e4fa:X,1e5d0:V,1e5fb:X,1e5ff:V,1e600:X,1e6c0:V,1e6df:X,1e6e0:V,
  1e6f6:X,1e6fe:V,1e700:X,1e7e0:V,1e7e7:X,1e7e8:V,1e7ec:X,1e7ed:V,1e7ef:X,1e7f0:V,1e7ff:X,1e800:V,
  1e8c5:X,1e8c7:V,1e8d7:X,1e900:M:1e922,1e901:M:1e923,1e902:M:1e924,1e903:M:1e925,1e904:M:1e926,
  1e905:M:1e927,1e906:M:1e928,1e907:M:1e929,1e908:M:1e92a,1e909:M:1e92b,1e90a:M:1e92c,
  1e90b:M:1e92d,1e90c:M:1e92e,1e90d:M:1e92f,1e90e:M:1e930,1e90f:M:1e931,1e910:M:1e932,
  1e911:M:1e933,1e912:M:1e934,1e913:M:1e935,1e914:M:1e936,1e915:M:1e937,1e916:M:1e938,
  1e917:M:1e939,1e918:M:1e93a,1e919:M:1e93b,1e91a:M:1e93c,1e91b:M:1e93d,1e91c:M:1e93e,
  1e91d:M:1e93f,1e91e:M:1e940,1e91f:M:1e941,1e920:M:1e942,1e921:M:1e943,1e922:V,1e94c:X,1e950:V,
  1e95a:X,1e95e:V,1e960:X,1ec71:V,1ecb5:X,1ed01:V,1ed3e:X,1ee00:M:627,1ee01:M:628,1ee02:M:62c,
  1ee03:M:62f,1ee04:X,1ee05:M:648,1ee06:M:632,1ee07:M:62d,1ee08:M:637,1ee09:M:64a,1ee0a:M:643,
  1ee0b:M:644,1ee0c:M:645,1ee0d:M:646,1ee0e:M:633,1ee0f:M:639,1ee10:M:641,1ee11:M:635,1ee12:M:642,
  1ee13:M:631,1ee14:M:634,1ee15:M:62a,1ee16:M:62b,1ee17:M:62e,1ee18:M:630,1ee19:M:636,1ee1a:M:638,
  1ee1b:M:63a,1ee1c:M:66e,1ee1d:M:6ba,1ee1e:M:6a1,1ee1f:M:66f,1ee20:X,1ee21:M:628,1ee22:M:62c,
  1ee23:X,1ee24:M:647,1ee25:X,1ee27:M:62d,1ee28:X,1ee29:M:64a,1ee2a:M:643,1ee2b:M:644,1ee2c:M:645,
  1ee2d:M:646,1ee2e:M:633,1ee2f:M:639,1ee30:M:641,1ee31:M:635,1ee32:M:642,1ee33:X,1ee34:M:634,
  1ee35:M:62a,1ee36:M:62b,1ee37:M:62e,1ee38:X,1ee39:M:636,1ee3a:X,1ee3b:M:63a,1ee3c:X,1ee42:M:62c,
  1ee43:X,1ee47:M:62d,1ee48:X,1ee49:M:64a,1ee4a:X,1ee4b:M:644,1ee4c:X,1ee4d:M:646,1ee4e:M:633,
  1ee4f:M:639,1ee50:X,1ee51:M:635,1ee52:M:642,1ee53:X,1ee54:M:634,1ee55:X,1ee57:M:62e,1ee58:X,
  1ee59:M:636,1ee5a:X,1ee5b:M:63a,1ee5c:X,1ee5d:M:6ba,1ee5e:X,1ee5f:M:66f,1ee60:X,1ee61:M:628,
  1ee62:M:62c,1ee63:X,1ee64:M:647,1ee65:X,1ee67:M:62d,1ee68:M:637,1ee69:M:64a,1ee6a:M:643,1ee6b:X,
  1ee6c:M:645,1ee6d:M:646,1ee6e:M:633,1ee6f:M:639,1ee70:M:641,1ee71:M:635,1ee72:M:642,1ee73:X,
  1ee74:M:634,1ee75:M:62a,1ee76:M:62b,1ee77:M:62e,1ee78:X,1ee79:M:636,1ee7a:M:638,1ee7b:M:63a,
  1ee7c:M:66e,1ee7d:X,1ee7e:M:6a1,1ee7f:X,1ee80:M:627,1ee81:M:628,1ee82:M:62c,1ee83:M:62f,
  1ee84:M:647,1ee85:M:648,1ee86:M:632,1ee87:M:62d,1ee88:M:637,1ee89:M:64a,1ee8a:X,1ee8b:M:644,
  1ee8c:M:645,1ee8d:M:646,1ee8e:M:633,1ee8f:M:639,1ee90:M:641,1ee91:M:635,1ee92:M:642,1ee93:M:631,
  1ee94:M:634,1ee95:M:62a,1ee96:M:62b,1ee97:M:62e,1ee98:M:630,1ee99:M:636,1ee9a:M:638,1ee9b:M:63a,
  1ee9c:X,1eea1:M:628,1eea2:M:62c,1eea3:M:62f,1eea4:X,1eea5:M:648,1eea6:M:632,1eea7:M:62d,
  1eea8:M:637,1eea9:M:64a,1eeaa:X,1eeab:M:644,1eeac:M:645,1eead:M:646,1eeae:M:633,1eeaf:M:639,
  1eeb0:M:641,1eeb1:M:635,1eeb2:M:642,1eeb3:M:631,1eeb4:M:634,1eeb5:M:62a,1eeb6:M:62b,1eeb7:M:62e,
  1eeb8:M:630,1eeb9:M:636,1eeba:M:638,1eebb:M:63a,1eebc:X,1eef0:V,1eef2:X,1f000:V,1f02c:X,1f030:V,
  1f094:X,1f0a0:V,1f0af:X,1f0b1:V,1f0c0:X,1f0c1:V,1f0d0:X,1f0d1:V,1f0f6:X,1f101:M:30.2c,
  1f102:M:31.2c,1f103:M:32.2c,1f104:M:33.2c,1f105:M:34.2c,1f106:M:35.2c,1f107:M:36.2c,
  1f108:M:37.2c,1f109:M:38.2c,1f10a:M:39.2c,1f10b:V,1f110:M:28.61.29,1f111:M:28.62.29,
  1f112:M:28.63.29,1f113:M:28.64.29,1f114:M:28.65.29,1f115:M:28.66.29,1f116:M:28.67.29,
  1f117:M:28.68.29,1f118:M:28.69.29,1f119:M:28.6a.29,1f11a:M:28.6b.29,1f11b:M:28.6c.29,
  1f11c:M:28.6d.29,1f11d:M:28.6e.29,1f11e:M:28.6f.29,1f11f:M:28.70.29,1f120:M:28.71.29,
  1f121:M:28.72.29,1f122:M:28.73.29,1f123:M:28.74.29,1f124:M:28.75.29,1f125:M:28.76.29,
  1f126:M:28.77.29,1f127:M:28.78.29,1f128:M:28.79.29,1f129:M:28.7a.29,1f12a:M:3014.73.3015,
  1f12b:M:63,1f12c:M:72,1f12d:M:63.64,1f12e:M:77.7a,1f12f:V,1f130:M:61,1f131:M:62,1f132:M:63,
  1f133:M:64,1f134:M:65,1f135:M:66,1f136:M:67,1f137:M:68,1f138:M:69,1f139:M:6a,1f13a:M:6b,
  1f13b:M:6c,1f13c:M:6d,1f13d:M:6e,1f13e:M:6f,1f13f:M:70,1f140:M:71,1f141:M:72,1f142:M:73,
  1f143:M:74,1f144:M:75,1f145:M:76,1f146:M:77,1f147:M:78,1f148:M:79,1f149:M:7a,1f14a:M:68.76,
  1f14b:M:6d.76,1f14c:M:73.64,1f14d:M:73.73,1f14e:M:70.70.76,1f14f:M:77.63,1f150:V,1f16a:M:6d.63,
  1f16b:M:6d.64,1f16c:M:6d.72,1f16d:V,1f190:M:64.6a,1f191:V,1f1ae:X,1f1e6:V,1f200:M:307b.304b,
  1f201:M:30b3.30b3,1f202:M:30b5,1f203:X,1f210:M:624b,1f211:M:5b57,1f212:M:53cc,1f213:M:30c7,
  1f214:M:4e8c,1f215:M:591a,1f216:M:89e3,1f217:M:5929,1f218:M:4ea4,1f219:M:6620,1f21a:M:7121,
  1f21b:M:6599,1f21c:M:524d,1f21d:M:5f8c,1f21e:M:518d,1f21f:M:65b0,1f220:M:521d,1f221:M:7d42,
  1f222:M:751f,1f223:M:8ca9,1f224:M:58f0,1f225:M:5439,1f226:M:6f14,1f227:M:6295,1f228:M:6355,
  1f229:M:4e00,1f22a:M:4e09,1f22b:M:904a,1f22c:M:5de6,1f22d:M:4e2d,1f22e:M:53f3,1f22f:M:6307,
  1f230:M:8d70,1f231:M:6253,1f232:M:7981,1f233:M:7a7a,1f234:M:5408,1f235:M:6e80,1f236:M:6709,
  1f237:M:6708,1f238:M:7533,1f239:M:5272,1f23a:M:55b6,1f23b:M:914d,1f23c:X,1f240:M:3014.672c.3015,
  1f241:M:3014.4e09.3015,1f242:M:3014.4e8c.3015,1f243:M:3014.5b89.3015,1f244:M:3014.70b9.3015,
  1f245:M:3014.6253.3015,1f246:M:3014.76d7.3015,1f247:M:3014.52dd.3015,1f248:M:3014.6557.3015,
  1f249:X,1f250:M:5f97,1f251:M:53ef,1f252:X,1f260:V,1f266:X,1f300:V,1f6d9:X,1f6dc:V,1f6ed:X,
  1f6f0:V,1f6fd:X,1f700:V,1f7da:X,1f7e0:V,1f7ec:X,1f7f0:V,1f7f1:X,1f800:V,1f80c:X,1f810:V,1f848:X,
  1f850:V,1f85a:X,1f860:V,1f888:X,1f890:V,1f8ae:X,1f8b0:V,1f8bc:X,1f8c0:V,1f8c2:X,1f8d0:V,1f8d9:X,
  1f900:V,1fa58:X,1fa60:V,1fa6e:X,1fa70:V,1fa7d:X,1fa80:V,1fa8b:X,1fa8e:V,1fac7:X,1fac8:V,1fac9:X,
  1facd:V,1fadd:X,1fadf:V,1faeb:X,1faef:V,1faf9:X,1fb00:V,1fb93:X,1fb94:V,1fbf0:M:30,1fbf1:M:31,
  1fbf2:M:32,1fbf3:M:33,1fbf4:M:34,1fbf5:M:35,1fbf6:M:36,1fbf7:M:37,1fbf8:M:38,1fbf9:M:39,1fbfa:V,
  1fbfb:X,20000:V,2a6e0:X,2a700:V,2b81e:X,2b820:V,2ceae:X,2ceb0:V,2ebe1:X,2ebf0:V,2ee5e:X,
  2f800:M:4e3d,2f801:M:4e38,2f802:M:4e41,2f803:M:20122,2f804:M:4f60,2f805:M:4fae,2f806:M:4fbb,
  2f807:M:5002,2f808:M:507a,2f809:M:5099,2f80a:M:50e7,2f80b:M:50cf,2f80c:M:349e,2f80d:M:2063a,
  2f80e:M:514d,2f80f:M:5154,2f810:M:5164,2f811:M:5177,2f812:M:2051c,2f813:M:34b9,2f814:M:5167,
  2f815:M:518d,2f816:M:2054b,2f817:M:5197,2f818:M:51a4,2f819:M:4ecc,2f81a:M:51ac,2f81b:M:51b5,
  2f81c:M:291df,2f81d:M:51f5,2f81e:M:5203,2f81f:M:34df,2f820:M:523b,2f821:M:5246,2f822:M:5272,
  2f823:M:5277,2f824:M:3515,2f825:M:52c7,2f826:M:52c9,2f827:M:52e4,2f828:M:52fa,2f829:M:5305,
  2f82a:M:5306,2f82b:M:5317,2f82c:M:5349,2f82d:M:5351,2f82e:M:535a,2f82f:M:5373,2f830:M:537d,
  2f831:M:537f,2f834:M:20a2c,2f835:M:7070,2f836:M:53ca,2f837:M:53df,2f838:M:20b63,2f839:M:53eb,
  2f83a:M:53f1,2f83b:M:5406,2f83c:M:549e,2f83d:M:5438,2f83e:M:5448,2f83f:M:5468,2f840:M:54a2,
  2f841:M:54f6,2f842:M:5510,2f843:M:5553,2f844:M:5563,2f845:M:5584,2f847:M:5599,2f848:M:55ab,
  2f849:M:55b3,2f84a:M:55c2,2f84b:M:5716,2f84c:M:5606,2f84d:M:5717,2f84e:M:5651,2f84f:M:5674,
  2f850:M:5207,2f851:M:58ee,2f852:M:57ce,2f853:M:57f4,2f854:M:580d,2f855:M:578b,2f856:M:5832,
  2f857:M:5831,2f858:M:58ac,2f859:M:214e4,2f85a:M:58f2,2f85b:M:58f7,2f85c:M:5906,2f85d:M:591a,
  2f85e:M:5922,2f85f:M:5962,2f860:M:216a8,2f861:M:216ea,2f862:M:59ec,2f863:M:5a1b,2f864:M:5a27,
  2f865:M:59d8,2f866:M:5a66,2f867:M:36ee,2f868:M:36fc,2f869:M:5b08,2f86a:M:5b3e,2f86c:M:219c8,
  2f86d:M:5bc3,2f86e:M:5bd8,2f86f:M:5be7,2f870:M:5bf3,2f871:M:21b18,2f872:M:5bff,2f873:M:5c06,
  2f874:M:5f53,2f875:M:5c22,2f876:M:3781,2f877:M:5c60,2f878:M:5c6e,2f879:M:5cc0,2f87a:M:5c8d,
  2f87b:M:21de4,2f87c:M:5d43,2f87d:M:21de6,2f87e:M:5d6e,2f87f:M:5d6b,2f880:M:5d7c,2f881:M:5de1,
  2f882:M:5de2,2f883:M:382f,2f884:M:5dfd,2f885:M:5e28,2f886:M:5e3d,2f887:M:5e69,2f888:M:3862,
  2f889:M:22183,2f88a:M:387c,2f88b:M:5eb0,2f88c:M:5eb3,2f88d:M:5eb6,2f88e:M:5eca,2f88f:M:2a392,
  2f890:M:5efe,2f891:M:22331,2f893:M:8201,2f894:M:5f22,2f896:M:38c7,2f897:M:232b8,2f898:M:261da,
  2f899:M:5f62,2f89a:M:5f6b,2f89b:M:38e3,2f89c:M:5f9a,2f89d:M:5fcd,2f89e:M:5fd7,2f89f:M:5ff9,
  2f8a0:M:6081,2f8a1:M:393a,2f8a2:M:391c,2f8a3:M:6094,2f8a4:M:226d4,2f8a5:M:60c7,2f8a6:M:6148,
  2f8a7:M:614c,2f8a8:M:614e,2f8a9:M:614c,2f8aa:M:617a,2f8ab:M:618e,2f8ac:M:61b2,2f8ad:M:61a4,
  2f8ae:M:61af,2f8af:M:61de,2f8b0:M:61f2,2f8b1:M:61f6,2f8b2:M:6210,2f8b3:M:621b,2f8b4:M:625d,
  2f8b5:M:62b1,2f8b6:M:62d4,2f8b7:M:6350,2f8b8:M:22b0c,2f8b9:M:633d,2f8ba:M:62fc,2f8bb:M:6368,
  2f8bc:M:6383,2f8bd:M:63e4,2f8be:M:22bf1,2f8bf:M:6422,2f8c0:M:63c5,2f8c1:M:63a9,2f8c2:M:3a2e,
  2f8c3:M:6469,2f8c4:M:647e,2f8c5:M:649d,2f8c6:M:6477,2f8c7:M:3a6c,2f8c8:M:654f,2f8c9:M:656c,
  2f8ca:M:2300a,2f8cb:M:65e3,2f8cc:M:66f8,2f8cd:M:6649,2f8ce:M:3b19,2f8cf:M:6691,2f8d0:M:3b08,
  2f8d1:M:3ae4,2f8d2:M:5192,2f8d3:M:5195,2f8d4:M:6700,2f8d5:M:669c,2f8d6:M:80ad,2f8d7:M:43d9,
  2f8d8:M:6717,2f8d9:M:671b,2f8da:M:6721,2f8db:M:675e,2f8dc:M:6753,2f8dd:M:233c3,2f8de:M:3b49,
  2f8df:M:67fa,2f8e0:M:6785,2f8e1:M:6852,2f8e2:M:6885,2f8e3:M:2346d,2f8e4:M:688e,2f8e5:M:681f,
  2f8e6:M:6914,2f8e7:M:3b9d,2f8e8:M:6942,2f8e9:M:69a3,2f8ea:M:69ea,2f8eb:M:6aa8,2f8ec:M:236a3,
  2f8ed:M:6adb,2f8ee:M:3c18,2f8ef:M:6b21,2f8f0:M:238a7,2f8f1:M:6b54,2f8f2:M:3c4e,2f8f3:M:6b72,
  2f8f4:M:6b9f,2f8f5:M:6bba,2f8f6:M:6bbb,2f8f7:M:23a8d,2f8f8:M:21d0b,2f8f9:M:23afa,2f8fa:M:6c4e,
  2f8fb:M:23cbc,2f8fc:M:6cbf,2f8fd:M:6ccd,2f8fe:M:6c67,2f8ff:M:6d16,2f900:M:6d3e,2f901:M:6d77,
  2f902:M:6d41,2f903:M:6d69,2f904:M:6d78,2f905:M:6d85,2f906:M:23d1e,2f907:M:6d34,2f908:M:6e2f,
  2f909:M:6e6e,2f90a:M:3d33,2f90b:M:6ecb,2f90c:M:6ec7,2f90d:M:23ed1,2f90e:M:6df9,2f90f:M:6f6e,
  2f910:M:23f5e,2f911:M:23f8e,2f912:M:6fc6,2f913:M:7039,2f914:M:701e,2f915:M:701b,2f916:M:3d96,
  2f917:M:704a,2f918:M:707d,2f919:M:7077,2f91a:M:70ad,2f91b:M:20525,2f91c:M:7145,2f91d:M:24263,
  2f91e:M:719c,2f91f:M:243ab,2f920:M:7228,2f921:M:7235,2f922:M:7250,2f923:M:24608,2f924:M:7280,
  2f925:M:7295,2f926:M:24735,2f927:M:24814,2f928:M:737a,2f929:M:738b,2f92a:M:3eac,2f92b:M:73a5,
  2f92c:M:3eb8,2f92e:M:7447,2f92f:M:745c,2f930:M:7471,2f931:M:7485,2f932:M:74ca,2f933:M:3f1b,
  2f934:M:7524,2f935:M:24c36,2f936:M:753e,2f937:M:24c92,2f938:M:7570,2f939:M:2219f,2f93a:M:7610,
  2f93b:M:24fa1,2f93c:M:24fb8,2f93d:M:25044,2f93e:M:3ffc,2f93f:M:4008,2f940:M:76f4,2f941:M:250f3,
  2f942:M:250f2,2f943:M:25119,2f944:M:25133,2f945:M:771e,2f946:M:771f,2f948:M:774a,2f949:M:4039,
  2f94a:M:778b,2f94b:M:4046,2f94c:M:4096,2f94d:M:2541d,2f94e:M:784e,2f94f:M:788c,2f950:M:78cc,
  2f951:M:40e3,2f952:M:25626,2f953:M:7956,2f954:M:2569a,2f955:M:256c5,2f956:M:798f,2f957:M:79eb,
  2f958:M:412f,2f959:M:7a40,2f95a:M:7a4a,2f95b:M:7a4f,2f95c:M:2597c,2f95d:M:25aa7,2f95f:M:7aee,
  2f960:M:4202,2f961:M:25bab,2f962:M:7bc6,2f963:M:7bc9,2f964:M:4227,2f965:M:25c80,2f966:M:7cd2,
  2f967:M:42a0,2f968:M:7ce8,2f969:M:7ce3,2f96a:M:7d00,2f96b:M:25f86,2f96c:M:7d63,2f96d:M:4301,
  2f96e:M:7dc7,2f96f:M:7e02,2f970:M:7e45,2f971:M:4334,2f972:M:26228,2f973:M:26247,2f974:M:4359,
  2f975:M:262d9,2f976:M:7f7a,2f977:M:2633e,2f978:M:7f95,2f979:M:7ffa,2f97a:M:8005,2f97b:M:264da,
  2f97c:M:26523,2f97d:M:8060,2f97e:M:265a8,2f97f:M:8070,2f980:M:2335f,2f981:M:43d5,2f982:M:80b2,
  2f983:M:8103,2f984:M:440b,2f985:M:813e,2f986:M:5ab5,2f987:M:267a7,2f988:M:267b5,2f989:M:23393,
  2f98a:M:2339c,2f98b:M:8201,2f98c:M:8204,2f98d:M:8f9e,2f98e:M:446b,2f98f:M:8291,2f990:M:828b,
  2f991:M:829d,2f992:M:52b3,2f993:M:82b1,2f994:M:82b3,2f995:M:82bd,2f996:M:82e6,2f997:M:26b3c,
  2f998:M:82e5,2f999:M:831d,2f99a:M:8363,2f99b:M:83ad,2f99c:M:8323,2f99d:M:83bd,2f99e:M:83e7,
  2f99f:M:8457,2f9a0:M:8353,2f9a1:M:83ca,2f9a2:M:83cc,2f9a3:M:83dc,2f9a4:M:26c36,2f9a5:M:26d6b,
  2f9a6:M:26cd5,2f9a7:M:452b,2f9a8:M:84f1,2f9a9:M:84f3,2f9aa:M:8516,2f9ab:M:273ca,2f9ac:M:8564,
  2f9ad:M:26f2c,2f9ae:M:455d,2f9af:M:4561,2f9b0:M:26fb1,2f9b1:M:270d2,2f9b2:M:456b,2f9b3:M:8650,
  2f9b4:M:865c,2f9b5:M:8667,2f9b6:M:8669,2f9b7:M:86a9,2f9b8:M:8688,2f9b9:M:870e,2f9ba:M:86e2,
  2f9bb:M:8779,2f9bc:M:8728,2f9bd:M:876b,2f9be:M:8786,2f9bf:M:45d7,2f9c0:M:87e1,2f9c1:M:8801,
  2f9c2:M:45f9,2f9c3:M:8860,2f9c4:M:8863,2f9c5:M:27667,2f9c6:M:88d7,2f9c7:M:88de,2f9c8:M:4635,
  2f9c9:M:88fa,2f9ca:M:34bb,2f9cb:M:278ae,2f9cc:M:27966,2f9cd:M:46be,2f9ce:M:46c7,2f9cf:M:8aa0,
  2f9d0:M:8aed,2f9d1:M:8b8a,2f9d2:M:8c55,2f9d3:M:27ca8,2f9d4:M:8cab,2f9d5:M:8cc1,2f9d6:M:8d1b,
  2f9d7:M:8d77,2f9d8:M:27f2f,2f9d9:M:20804,2f9da:M:8dcb,2f9db:M:8dbc,2f9dc:M:8df0,2f9dd:M:208de,
  2f9de:M:8ed4,2f9df:M:8f38,2f9e0:M:285d2,2f9e1:M:285ed,2f9e2:M:9094,2f9e3:M:90f1,2f9e4:M:9111,
  2f9e5:M:2872e,2f9e6:M:911b,2f9e7:M:9238,2f9e8:M:92d7,2f9e9:M:92d8,2f9ea:M:927c,2f9eb:M:93f9,
  2f9ec:M:9415,2f9ed:M:28bfa,2f9ee:M:958b,2f9ef:M:4995,2f9f0:M:95b7,2f9f1:M:28d77,2f9f2:M:49e6,
  2f9f3:M:96c3,2f9f4:M:5db2,2f9f5:M:9723,2f9f6:M:29145,2f9f7:M:2921a,2f9f8:M:4a6e,2f9f9:M:4a76,
  2f9fa:M:97e0,2f9fb:M:2940a,2f9fc:M:4ab2,2f9fd:M:29496,2f9fe:M:980b,2fa00:M:9829,2fa01:M:295b6,
  2fa02:M:98e2,2fa03:M:4b33,2fa04:M:9929,2fa05:M:99a7,2fa06:M:99c2,2fa07:M:99fe,2fa08:M:4bce,
  2fa09:M:29b30,2fa0a:M:9b12,2fa0b:M:9c40,2fa0c:M:9cfd,2fa0d:M:4cce,2fa0e:M:4ced,2fa0f:M:9d67,
  2fa10:M:2a0ce,2fa11:M:4cf8,2fa12:M:2a105,2fa13:M:2a20e,2fa14:M:2a291,2fa15:M:9ebb,2fa16:M:4d56,
  2fa17:M:9ef9,2fa18:M:9efe,2fa19:M:9f05,2fa1a:M:9f0f,2fa1b:M:9f16,2fa1c:M:9f3b,2fa1d:M:2a600,
  2fa1e:X,30000:V,3134b:X,31350:V,3347a:X,e0100:I,e01f0:X"

/-- The characters a label may hold anywhere. -/
def validRanges : CodeRanges := readCodeRanges
  "2d,30-39,61-7a,df-f6,f8-ff,101,103,105,107,109,10b,10d,10f,111,113,115,117,119,11b,11d,11f,121,
  123,125,127,129,12b,12d,12f,131,135,137-138,13a,13c,13e,142,144,146,148,14b,14d,14f,151,153,155,
  157,159,15b,15d,15f,161,163,165,167,169,16b,16d,16f,171,173,175,177,17a,17c,17e,180,183,185,188,
  18c-18d,192,195,199-19b,19e,1a1,1a3,1a5,1a8,1aa-1ab,1ad,1b0,1b4,1b6,1b9-1bb,1bd-1c3,1ce,1d0,1d2,
  1d4,1d6,1d8,1da,1dc-1dd,1df,1e1,1e3,1e5,1e7,1e9,1eb,1ed,1ef-1f0,1f5,1f9,1fb,1fd,1ff,201,203,205,
  207,209,20b,20d,20f,211,213,215,217,219,21b,21d,21f,221,223,225,227,229,22b,22d,22f,231,233-239,
  23c,23f-240,242,247,249,24b,24d,24f-2af,2b9-2c1,2c6-2d1,2ec,2ee,300-33f,342,346-34e,350-36f,371,
  373,377,37b-37d,390,3ac-3ce,3d7,3d9,3db,3dd,3df,3e1,3e3,3e5,3e7,3e9,3eb,3ed,3ef,3f3,3f8,3fb-3fc,
  430-45f,461,463,465,467,469,46b,46d,46f,471,473,475,477,479,47b,47d,47f,481,483-487,48b,48d,48f,
  491,493,495,497,499,49b,49d,49f,4a1,4a3,4a5,4a7,4a9,4ab,4ad,4af,4b1,4b3,4b5,4b7,4b9,4bb,4bd,4bf,
  4c2,4c4,4c6,4c8,4ca,4cc,4ce-4cf,4d1,4d3,4d5,4d7,4d9,4db,4dd,4df,4e1,4e3,4e5,4e7,4e9,4eb,4ed,4ef,
  4f1,4f3,4f5,4f7,4f9,4fb,4fd,4ff,501,503,505,507,509,50b,50d,50f,511,513,515,517,519,51b,51d,51f,
  521,523,525,527,529,52b,52d,52f,559,560-586,588,591-5bd,5bf,5c1-5c2,5c4-5c5,5c7,5d0-5ea,5ef-5f2,
  610-61a,620-63f,641-65f,66e-674,679-6d3,6d5-6dc,6df-6e8,6ea-6ef,6fa-6ff,710-74a,74d-7b1,7c0-7f5,
  7fd,800-82d,840-85b,860-86a,870-887,889-88f,897-8e1,8e3-957,960-963,966-96f,971-983,985-98c,
  98f-990,993-9a8,9aa-9b0,9b2,9b6-9b9,9bc-9c4,9c7-9c8,9cb-9ce,9d7,9e0-9e3,9e6-9f1,9fc,9fe,a01-a03,
  a05-a0a,a0f-a10,a13-a28,a2a-a30,a32,a35,a38-a39,a3c,a3e-a42,a47-a48,a4b-a4d,a51,a5c,a66-a75,
  a81-a83,a85-a8d,a8f-a91,a93-aa8,aaa-ab0,ab2-ab3,ab5-ab9,abc-ac5,ac7-ac9,acb-acd,ad0,ae0-ae3,
  ae6-aef,af9-aff,b01-b03,b05-b0c,b0f-b10,b13-b28,b2a-b30,b32-b33,b35-b39,b3c-b44,b47-b48,b4b-b4d,
  b55-b57,b5f-b63,b66-b6f,b71,b82-b83,b85-b8a,b8e-b90,b92-b95,b99-b9a,b9c,b9e-b9f,ba3-ba4,ba8-baa,
  bae-bb9,bbe-bc2,bc6-bc8,bca-bcd,bd0,bd7,be6-bef,c00-c0c,c0e-c10,c12-c28,c2a-c39,c3c-c44,c46-c48,
  c4a-c4d,c55-c56,c58-c5a,c5c-c5d,c60-c63,c66-c6f,c80-c83,c85-c8c,c8e-c90,c92-ca8,caa-cb3,cb5-cb9,
  cbc-cc4,cc6-cc8,cca-ccd,cd5-cd6,cdc-cde,ce0-ce3,ce6-cef,cf1-cf3,d00-d0c,d0e-d10,d12-d44,d46-d48,
  d4a-d4e,d54-d57,d5f-d63,d66-d6f,d7a-d7f,d81-d83,d85-d96,d9a-db1,db3-dbb,dbd,dc0-dc6,dca,dcf-dd4,
  dd6,dd8-ddf,de6-def,df2-df3,e01-e32,e34-e3a,e40-e4e,e50-e59,e81-e82,e84,e86-e8a,e8c-ea3,ea5,
  ea7-eb2,eb4-ebd,ec0-ec4,ec6,ec8-ece,ed0-ed9,ede-edf,f00,f0b,f18-f19,f20-f29,f35,f37,f39,f3e-f42,
  f44-f47,f49-f4c,f4e-f51,f53-f56,f58-f5b,f5d-f68,f6a-f6c,f71-f72,f74,f7a-f80,f82-f84,f86-f92,
  f94-f97,f99-f9c,f9e-fa1,fa3-fa6,fa8-fab,fad-fb8,fba-fbc,fc6,1000-1049,1050-109d,10d0-10fa,
  10fd-10ff,1200-1248,124a-124d,1250-1256,1258,125a-125d,1260-1288,128a-128d,1290-12b0,12b2-12b5,
  12b8-12be,12c0,12c2-12c5,12c8-12d6,12d8-1310,1312-1315,1318-135a,135d-135f,1380-138f,13a0-13f5,
  1401-166c,166f-167f,1681-169a,16a0-16ea,16f1-16f8,1700-1715,171f-1734,1740-1753,1760-176c,
  176e-1770,1772-1773,1780-17b3,17b6-17d3,17d7,17dc-17dd,17e0-17e9,1810-1819,1820-1878,1880-18aa,
  18b0-18f5,1900-191e,1920-192b,1930-193b,1946-196d,1970-1974,1980-19ab,19b0-19c9,19d0-19d9,
  1a00-1a1b,1a20-1a5e,1a60-1a7c,1a7f-1a89,1a90-1a99,1aa7,1ab0-1abd,1abf-1add,1ae0-1aeb,1b00-1b4c,
  1b50-1b59,1b6b-1b73,1b80-1bf3,1c00-1c37,1c40-1c49,1c4d-1c7d,1c8a,1cd0-1cd2,1cd4-1cfa,1d00-1d2b,
  1d2f,1d3b,1d4e,1d6b-1d77,1d79-1d9a,1dc0-1dff,1e01,1e03,1e05,1e07,1e09,1e0b,1e0d,1e0f,1e11,1e13,
  1e15,1e17,1e19,1e1b,1e1d,1e1f,1e21,1e23,1e25,1e27,1e29,1e2b,1e2d,1e2f,1e31,1e33,1e35,1e37,1e39,
  1e3b,1e3d,1e3f,1e41,1e43,1e45,1e47,1e49,1e4b,1e4d,1e4f,1e51,1e53,1e55,1e57,1e59,1e5b,1e5d,1e5f,
  1e61,1e63,1e65,1e67,1e69,1e6b,1e6d,1e6f,1e71,1e73,1e75,1e77,1e79,1e7b,1e7d,1e7f,1e81,1e83,1e85,
  1e87,1e89,1e8b,1e8d,1e8f,1e91,1e93,1e95-1e99,1e9c-1e9d,1e9f,1ea1,1ea3,1ea5,1ea7,1ea9,1eab,1ead,
  1eaf,1eb1,1eb3,1eb5,1eb7,1eb9,1ebb,1ebd,1ebf,1ec1,1ec3,1ec5,1ec7,1ec9,1ecb,1ecd,1ecf,1ed1,1ed3,
  1ed5,1ed7,1ed9,1edb,1edd,1edf,1ee1,1ee3,1ee5,1ee7,1ee9,1eeb,1eed,1eef,1ef1,1ef3,1ef5,1ef7,1ef9,
  1efb,1efd,1eff-1f07,1f10-1f15,1f20-1f27,1f30-1f37,1f40-1f45,1f50-1f57,1f60-1f67,1f70,1f72,1f74,
  1f76,1f78,1f7a,1f7c,1fb0-1fb1,1fb6,1fc6,1fd0-1fd2,1fd6-1fd7,1fe0-1fe2,1fe4-1fe7,1ff6,214e,2184,
  2c30-2c5f,2c61,2c65-2c66,2c68,2c6a,2c6c,2c71,2c73-2c74,2c76-2c7b,2c81,2c83,2c85,2c87,2c89,2c8b,
  2c8d,2c8f,2c91,2c93,2c95,2c97,2c99,2c9b,2c9d,2c9f,2ca1,2ca3,2ca5,2ca7,2ca9,2cab,2cad,2caf,2cb1,
  2cb3,2cb5,2cb7,2cb9,2cbb,2cbd,2cbf,2cc1,2cc3,2cc5,2cc7,2cc9,2ccb,2ccd,2ccf,2cd1,2cd3,2cd5,2cd7,
  2cd9,2cdb,2cdd,2cdf,2ce1,2ce3-2ce4,2cec,2cee-2cf1,2cf3,2d00-2d25,2d27,2d2d,2d30-2d67,2d7f-2d96,
  2da0-2da6,2da8-2dae,2db0-2db6,2db8-2dbe,2dc0-2dc6,2dc8-2dce,2dd0-2dd6,2dd8-2dde,2de0-2dff,2e2f,
  3005-3007,302a-302d,303c,3041-3096,3099-309a,309d-309e,30a1-30fa,30fc-30fe,3105-312f,31a0-31bf,
  31f0-31ff,3400-4dbf,4e00-a48c,a4d0-a4fd,a500-a60c,a610-a62b,a641,a643,a645,a647,a649,a64b,a64d,
  a64f,a651,a653,a655,a657,a659,a65b,a65d,a65f,a661,a663,a665,a667,a669,a66b,a66d-a66f,a674-a67d,
  a67f,a681,a683,a685,a687,a689,a68b,a68d,a68f,a691,a693,a695,a697,a699,a69b,a69e-a6e5,a6f0-a6f1,
  a717-a71f,a723,a725,a727,a729,a72b,a72d,a72f-a731,a733,a735,a737,a739,a73b,a73d,a73f,a741,a743,
  a745,a747,a749,a74b,a74d,a74f,a751,a753,a755,a757,a759,a75b,a75d,a75f,a761,a763,a765,a767,a769,
  a76b,a76d,a76f,a771-a778,a77a,a77c,a77f,a781,a783,a785,a787-a788,a78c,a78e-a78f,a791,a793-a795,
  a797,a799,a79b,a79d,a79f,a7a1,a7a3,a7a5,a7a7,a7a9,a7af,a7b5,a7b7,a7b9,a7bb,a7bd,a7bf,a7c1,a7c3,
  a7c8,a7ca,a7cd,a7cf,a7d1,a7d3,a7d5,a7d7,a7d9,a7db,a7f6-a7f7,a7fa-a827,a82c,a840-a873,a880-a8c5,
  a8d0-a8d9,a8e0-a8f7,a8fb,a8fd-a92d,a930-a953,a980-a9c0,a9cf-a9d9,a9e0-a9fe,aa00-aa36,aa40-aa4d,
  aa50-aa59,aa60-aa76,aa7a-aac2,aadb-aadd,aae0-aaef,aaf2-aaf6,ab01-ab06,ab09-ab0e,ab11-ab16,
  ab20-ab26,ab28-ab2e,ab30-ab5a,ab60-ab68,abc0-abea,abec-abed,abf0-abf9,ac00-d7a3,fa0e-fa0f,fa11,
  fa13-fa14,fa1f,fa21,fa23-fa24,fa27-fa29,fb1e,fe20-fe2f,fe73,10000-1000b,1000d-10026,10028-1003a,
  1003c-1003d,1003f-1004d,10050-1005d,10080-100fa,101fd,10280-1029c,102a0-102d0,102e0,10300-1031f,
  1032d-10340,10342-10349,10350-1037a,10380-1039d,103a0-103c3,103c8-103cf,10428-1049d,104a0-104a9,
  104d8-104fb,10500-10527,10530-10563,10597-105a1,105a3-105b1,105b3-105b9,105bb-105bc,105c0-105f3,
  10600-10736,10740-10755,10760-10767,10780,10800-10805,10808,1080a-10835,10837-10838,1083c,
  1083f-10855,10860-10876,10880-1089e,108e0-108f2,108f4-108f5,10900-10915,10920-10939,10940-10959,
  10980-109b7,109be-109bf,10a00-10a03,10a05-10a06,10a0c-10a13,10a15-10a17,10a19-10a35,10a38-10a3a,
  10a3f,10a60-10a7c,10a80-10a9c,10ac0-10ac7,10ac9-10ae6,10b00-10b35,10b40-10b55,10b60-10b72,
  10b80-10b91,10c00-10c48,10cc0-10cf2,10d00-10d27,10d30-10d39,10d40-10d4f,10d69-10d6d,10d6f-10d85,
  10e80-10ea9,10eab-10eac,10eb0-10eb1,10ec2-10ec7,10efa-10f1c,10f27,10f30-10f50,10f70-10f85,
  10fb0-10fc4,10fe0-10ff6,11000-11046,11066-11075,1107f-110ba,110c2,110d0-110e8,110f0-110f9,
  11100-11134,11136-1113f,11144-11147,11150-11173,11176,11180-111c4,111c9-111cc,111ce-111da,111dc,
  11200-11211,11213-11237,1123e-11241,11280-11286,11288,1128a-1128d,1128f-1129d,1129f-112a8,
  112b0-112ea,112f0-112f9,11300-11303,11305-1130c,1130f-11310,11313-11328,1132a-11330,11332-11333,
  11335-11339,1133b-11344,11347-11348,1134b-1134d,11350,11357,1135d-11363,11366-1136c,11370-11374,
  11380-11389,1138b,1138e,11390-113b5,113b7-113c0,113c2,113c5,113c7-113ca,113cc-113d3,113e1-113e2,
  11400-1144a,11450-11459,1145e-11461,11480-114c5,114c7,114d0-114d9,11580-115b5,115b8-115c0,
  115d8-115dd,11600-11640,11644,11650-11659,11680-116b8,116c0-116c9,116d0-116e3,11700-1171a,
  1171d-1172b,11730-11739,11740-11746,11800-1183a,118c0-118e9,118ff-11906,11909,1190c-11913,
  11915-11916,11918-11935,11937-11938,1193b-11943,11950-11959,119a0-119a7,119aa-119d7,119da-119e1,
  119e3-119e4,11a00-11a3e,11a47,11a50-11a99,11a9d,11ab0-11af8,11b60-11b67,11bc0-11be0,11bf0-11bf9,
  11c00-11c08,11c0a-11c36,11c38-11c40,11c50-11c59,11c72-11c8f,11c92-11ca7,11ca9-11cb6,11d00-11d06,
  11d08-11d09,11d0b-11d36,11d3a,11d3c-11d3d,11d3f-11d47,11d50-11d59,11d60-11d65,11d67-11d68,
  11d6a-11d8e,11d90-11d91,11d93-11d98,11da0-11da9,11db0-11ddb,11de0-11de9,11ee0-11ef6,11f00-11f10,
  11f12-11f3a,11f3e-11f42,11f50-11f5a,11fb0,12000-12399,12480-12543,12f90-12ff0,13000-1342f,
  13440-13455,13460-143fa,14400-14646,16100-16139,16800-16a38,16a40-16a5e,16a60-16a69,16a70-16abe,
  16ac0-16ac9,16ad0-16aed,16af0-16af4,16b00-16b36,16b40-16b43,16b50-16b59,16b63-16b77,16b7d-16b8f,
  16d40-16d6c,16d70-16d79,16e60-16e7f,16ebb-16ed3,16f00-16f4a,16f4f-16f87,16f8f-16f9f,16fe0-16fe1,
  16fe3-16fe4,16ff0-16ff3,17000-18cd5,18cff-18d1e,18d80-18df2,1aff0-1aff3,1aff5-1affb,1affd-1affe,
  1b000-1b122,1b132,1b150-1b152,1b155,1b164-1b167,1b170-1b2fb,1bc00-1bc6a,1bc70-1bc7c,1bc80-1bc88,
  1bc90-1bc99,1bc9d-1bc9e,1cf00-1cf2d,1cf30-1cf46,1da00-1da36,1da3b-1da6c,1da75,1da84,1da9b-1da9f,
  1daa1-1daaf,1df00-1df1e,1df25-1df2a,1e000-1e006,1e008-1e018,1e01b-1e021,1e023-1e024,1e026-1e02a,
  1e08f,1e100-1e12c,1e130-1e13d,1e140-1e149,1e14e,1e290-1e2ae,1e2c0-1e2f9,1e4d0-1e4f9,1e5d0-1e5fa,
  1e6c0-1e6de,1e6e0-1e6f5,1e6fe-1e6ff,1e7e0-1e7e6,1e7e8-1e7eb,1e7ed-1e7ee,1e7f0-1e7fe,1e800-1e8c4,
  1e8d0-1e8d6,1e922-1e94b,1e950-1e959,20000-2a6df,2a700-2b81d,2b820-2cead,2ceb0-2ebe0,2ebf0-2ee5d,
  30000-3134a,31350-33479"

/-- The joiners, allowed next to the right neighbours. -/
def joinerRanges : CodeRanges := readCodeRanges
  "200c-200d"

/-- The characters allowed in the right context. -/
def contextRanges : CodeRanges := readCodeRanges
  "b7,375,5f3-5f4,660-669,6f0-6f9,30fb"

/-- The Greek script. -/
def greekRanges : CodeRanges := readCodeRanges
  "370-373,375-377,37a-37d,37f,384,386,388-38a,38c,38e-3a1,3a3-3e1,3f0-3ff,1d26-1d2a,1d5d-1d61,
  1d66-1d6a,1dbf,1f00-1f15,1f18-1f1d,1f20-1f45,1f48-1f4d,1f50-1f57,1f59,1f5b,1f5d,1f5f-1f7d,
  1f80-1fb4,1fb6-1fc4,1fc6-1fd3,1fd6-1fdb,1fdd-1fef,1ff2-1ff4,1ff6-1ffe,2126,ab65,10140-1018e,
  101a0,1d200-1d245"

/-- The Hebrew script. -/
def hebrewRanges : CodeRanges := readCodeRanges
  "591-5c7,5d0-5ea,5ef-5f4,fb1d-fb36,fb38-fb3c,fb3e,fb40-fb41,fb43-fb44,fb46-fb4f"

/-- The Hiragana script. -/
def hiraganaRanges : CodeRanges := readCodeRanges
  "3041-3096,309d-309f,1b001-1b11f,1b132,1b150-1b152,1f200"

/-- The Katakana script. -/
def katakanaRanges : CodeRanges := readCodeRanges
  "30a1-30fa,30fd-30ff,31f0-31ff,32d0-32fe,3300-3357,ff66-ff6f,ff71-ff9d,1aff0-1aff3,1aff5-1affb,
  1affd-1affe,1b000,1b120-1b122,1b155,1b164-1b167"

/-- The Han script. -/
def hanRanges : CodeRanges := readCodeRanges
  "2e80-2e99,2e9b-2ef3,2f00-2fd5,3005,3007,3021-3029,3038-303b,3400-4dbf,4e00-9fff,f900-fa6d,
  fa70-fad9,16fe2-16fe3,16ff0-16ff6,20000-2a6df,2a700-2b81d,2b820-2cead,2ceb0-2ebe0,2ebf0-2ee5d,
  2f800-2fa1d,30000-3134a,31350-33479"

/-- The names of the joining types, by index. -/
def joiningTypeNames : Array Char := #['C', 'D', 'L', 'R', 'T']

/-- The joining types of the characters that have one, as indices of `joiningTypeNames`. -/
def joiningTypes : CodeValues := readCodeValues
  "ad:4,300-36f:4,483-489:4,591-5bd:4,5bf:4,5c1-5c2:4,5c4-5c5:4,5c7:4,610-61a:4,61c:4,620:1,
  622-625:3,626:1,627:3,628:1,629:3,62a-62e:1,62f-632:3,633-63f:1,640:0,641-647:1,648:3,649-64a:1,
  64b-65f:4,66e-66f:1,670:4,671-673:3,675-677:3,678-687:1,688-699:3,69a-6bf:1,6c0:3,6c1-6c2:1,
  6c3-6cb:3,6cc:1,6cd:3,6ce:1,6cf:3,6d0-6d1:1,6d2-6d3:3,6d5:3,6d6-6dc:4,6df-6e4:4,6e7-6e8:4,
  6ea-6ed:4,6ee-6ef:3,6fa-6fc:1,6ff:1,70f:4,710:3,711:4,712-714:1,715-719:3,71a-71d:1,71e:3,
  71f-727:1,728:3,729:1,72a:3,72b:1,72c:3,72d-72e:1,72f:3,730-74a:4,74d:3,74e-758:1,759-75b:3,
  75c-76a:1,76b-76c:3,76d-770:1,771:3,772:1,773-774:3,775-777:1,778-779:3,77a-77f:1,7a6-7b0:4,
  7ca-7ea:1,7eb-7f3:4,7fa:0,7fd:4,816-819:4,81b-823:4,825-827:4,829-82d:4,840:3,841-845:1,
  846-847:3,848:1,849:3,84a-853:1,854:3,855:1,856-858:3,859-85b:4,860:1,862-865:1,867:3,868:1,
  869-86a:3,870-882:3,883-885:0,886:1,889-88d:1,88e:3,88f:1,897-89f:4,8a0-8a9:1,8aa-8ac:3,8ae:3,
  8af-8b0:1,8b1-8b2:3,8b3-8b8:1,8b9:3,8ba-8c8:1,8ca-8e1:4,8e3-902:4,93a:4,93c:4,941-948:4,94d:4,
  951-957:4,962-963:4,981:4,9bc:4,9c1-9c4:4,9cd:4,9e2-9e3:4,9fe:4,a01-a02:4,a3c:4,a41-a42:4,
  a47-a48:4,a4b-a4d:4,a51:4,a70-a71:4,a75:4,a81-a82:4,abc:4,ac1-ac5:4,ac7-ac8:4,acd:4,ae2-ae3:4,
  afa-aff:4,b01:4,b3c:4,b3f:4,b41-b44:4,b4d:4,b55-b56:4,b62-b63:4,b82:4,bc0:4,bcd:4,c00:4,c04:4,
  c3c:4,c3e-c40:4,c46-c48:4,c4a-c4d:4,c55-c56:4,c62-c63:4,c81:4,cbc:4,cbf:4,cc6:4,ccc-ccd:4,
  ce2-ce3:4,d00-d01:4,d3b-d3c:4,d41-d44:4,d4d:4,d62-d63:4,d81:4,dca:4,dd2-dd4:4,dd6:4,e31:4,
  e34-e3a:4,e47-e4e:4,eb1:4,eb4-ebc:4,ec8-ece:4,f18-f19:4,f35:4,f37:4,f39:4,f71-f7e:4,f80-f84:4,
  f86-f87:4,f8d-f97:4,f99-fbc:4,fc6:4,102d-1030:4,1032-1037:4,1039-103a:4,103d-103e:4,1058-1059:4,
  105e-1060:4,1071-1074:4,1082:4,1085-1086:4,108d:4,109d:4,135d-135f:4,1712-1714:4,1732-1733:4,
  1752-1753:4,1772-1773:4,17b4-17b5:4,17b7-17bd:4,17c6:4,17c9-17d3:4,17dd:4,1807:1,180a:0,
  180b-180d:4,180f:4,1820-1878:1,1885-1886:4,1887-18a8:1,18a9:4,18aa:1,1920-1922:4,1927-1928:4,
  1932:4,1939-193b:4,1a17-1a18:4,1a1b:4,1a56:4,1a58-1a5e:4,1a60:4,1a62:4,1a65-1a6c:4,1a73-1a7c:4,
  1a7f:4,1ab0-1add:4,1ae0-1aeb:4,1b00-1b03:4,1b34:4,1b36-1b3a:4,1b3c:4,1b42:4,1b6b-1b73:4,
  1b80-1b81:4,1ba2-1ba5:4,1ba8-1ba9:4,1bab-1bad:4,1be6:4,1be8-1be9:4,1bed:4,1bef-1bf1:4,
  1c2c-1c33:4,1c36-1c37:4,1cd0-1cd2:4,1cd4-1ce0:4,1ce2-1ce8:4,1ced:4,1cf4:4,1cf8-1cf9:4,
  1dc0-1dff:4,200b:4,200d:0,200e-200f:4,202a-202e:4,2060-2064:4,206a-206f:4,20d0-20f0:4,
  2cef-2cf1:4,2d7f:4,2de0-2dff:4,302a-302d:4,3099-309a:4,a66f-a672:4,a674-a67d:4,a69e-a69f:4,
  a6f0-a6f1:4,a802:4,a806:4,a80b:4,a825-a826:4,a82c:4,a840-a871:1,a872:2,a8c4-a8c5:4,a8e0-a8f1:4,
  a8ff:4,a926-a92d:4,a947-a951:4,a980-a982:4,a9b3:4,a9b6-a9b9:4,a9bc-a9bd:4,a9e5:4,aa29-aa2e:4,
  aa31-aa32:4,aa35-aa36:4,aa43:4,aa4c:4,aa7c:4,aab0:4,aab2-aab4:4,aab7-aab8:4,aabe-aabf:4,aac1:4,
  aaec-aaed:4,aaf6:4,abe5:4,abe8:4,abed:4,fb1e:4,fe00-fe0f:4,fe20-fe2f:4,feff:4,fff9-fffb:4,
  101fd:4,102e0:4,10376-1037a:4,10a01-10a03:4,10a05-10a06:4,10a0c-10a0f:4,10a38-10a3a:4,10a3f:4,
  10ac0-10ac4:1,10ac5:3,10ac7:3,10ac9-10aca:3,10acd:2,10ace-10ad2:3,10ad3-10ad6:1,10ad7:2,
  10ad8-10adc:1,10add:3,10ade-10ae0:1,10ae1:3,10ae4:3,10ae5-10ae6:4,10aeb-10aee:1,10aef:3,10b80:1,
  10b81:3,10b82:1,10b83-10b85:3,10b86-10b88:1,10b89:3,10b8a-10b8b:1,10b8c:3,10b8d:1,10b8e-10b8f:3,
  10b90:1,10b91:3,10ba9-10bac:3,10bad-10bae:1,10d00:2,10d01-10d21:1,10d22:3,10d23:1,10d24-10d27:4,
  10d69-10d6d:4,10eab-10eac:4,10ec2:3,10ec3-10ec4:1,10ec6-10ec7:1,10efa-10eff:4,10f30-10f32:1,
  10f33:3,10f34-10f44:1,10f46-10f50:4,10f51-10f53:1,10f54:3,10f70-10f73:1,10f74-10f75:3,
  10f76-10f81:1,10f82-10f85:4,10fb0:1,10fb2-10fb3:1,10fb4-10fb6:3,10fb8:1,10fb9-10fba:3,
  10fbb-10fbc:1,10fbd:3,10fbe-10fbf:1,10fc1:1,10fc2-10fc3:3,10fc4:1,10fc9:3,10fca:1,10fcb:2,
  11001:4,11038-11046:4,11070:4,11073-11074:4,1107f-11081:4,110b3-110b6:4,110b9-110ba:4,110c2:4,
  11100-11102:4,11127-1112b:4,1112d-11134:4,11173:4,11180-11181:4,111b6-111be:4,111c9-111cc:4,
  111cf:4,1122f-11231:4,11234:4,11236-11237:4,1123e:4,11241:4,112df:4,112e3-112ea:4,11300-11301:4,
  1133b-1133c:4,11340:4,11366-1136c:4,11370-11374:4,113bb-113c0:4,113ce:4,113d0:4,113d2:4,
  113e1-113e2:4,11438-1143f:4,11442-11444:4,11446:4,1145e:4,114b3-114b8:4,114ba:4,114bf-114c0:4,
  114c2-114c3:4,115b2-115b5:4,115bc-115bd:4,115bf-115c0:4,115dc-115dd:4,11633-1163a:4,1163d:4,
  1163f-11640:4,116ab:4,116ad:4,116b0-116b5:4,116b7:4,1171d:4,1171f:4,11722-11725:4,11727-1172b:4,
  1182f-11837:4,11839-1183a:4,1193b-1193c:4,1193e:4,11943:4,119d4-119d7:4,119da-119db:4,119e0:4,
  11a01-11a0a:4,11a33-11a38:4,11a3b-11a3e:4,11a47:4,11a51-11a56:4,11a59-11a5b:4,11a8a-11a96:4,
  11a98-11a99:4,11b60:4,11b62-11b64:4,11b66:4,11c30-11c36:4,11c38-11c3d:4,11c3f:4,11c92-11ca7:4,
  11caa-11cb0:4,11cb2-11cb3:4,11cb5-11cb6:4,11d31-11d36:4,11d3a:4,11d3c-11d3d:4,11d3f-11d45:4,
  11d47:4,11d90-11d91:4,11d95:4,11d97:4,11ef3-11ef4:4,11f00-11f01:4,11f36-11f3a:4,11f40:4,11f42:4,
  11f5a:4,13430-13440:4,13447-13455:4,1611e-16129:4,1612d-1612f:4,16af0-16af4:4,16b30-16b36:4,
  16f4f:4,16f8f-16f92:4,16fe4:4,1bc9d-1bc9e:4,1bca0-1bca3:4,1cf00-1cf2d:4,1cf30-1cf46:4,
  1d167-1d169:4,1d173-1d182:4,1d185-1d18b:4,1d1aa-1d1ad:4,1d242-1d244:4,1da00-1da36:4,
  1da3b-1da6c:4,1da75:4,1da84:4,1da9b-1da9f:4,1daa1-1daaf:4,1e000-1e006:4,1e008-1e018:4,
  1e01b-1e021:4,1e023-1e024:4,1e026-1e02a:4,1e08f:4,1e130-1e136:4,1e2ae:4,1e2ec-1e2ef:4,
  1e4ec-1e4ef:4,1e5ee-1e5ef:4,1e6e3:4,1e6e6:4,1e6ee-1e6ef:4,1e6f5:4,1e8d0-1e8d6:4,1e900-1e943:1,
  1e944-1e94b:4,e0001:4,e0020-e007f:4,e0100-e01ef:4"

end ConnectedHome.Net
